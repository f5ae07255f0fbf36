import TokenAuthority.Jwt.Signing
import TokenAuthority.Jwt.Token
import TokenAuthority.Record.TokenResponse

/-!
# Verifying tokens

## Main definitions

* `Header.read` — the algorithm of a header, if the header is formed as it has to be.
* `decodeToken` — verifies a compact token and returns its claims.
* `decodeResponse` — the same for every token of a response.

## Implementation notes

The checks come in this order, and the first that fails is reported: the three parts; the header and
its algorithm; the signature; the claims as a JSON object; the forms of the registered claims, even
where expiry is not checked; and the expiry, which is checked to the second.
-/

set_option autoImplicit false

namespace TokenAuthority

open Json

/-! ## Headers -/

namespace Header

/-- The algorithms that a header may name. -/
def algorithms : List String :=
  ["HS256", "HS384", "HS512", "ES256", "ES384", "RS256", "RS384", "RS512", "PS256", "PS384",
    "PS512", "EdDSA"]

/-- The `alg` member. -/
def algorithm : Codec String := Codec.enumeration (algorithms.map fun a => (a, a)) id

/-- The members of a key that depend on its kind, all of them texts. -/
def keyMembers (v : Value) : List String :=
  match v.get? "kty" with
  | some (.str "RSA") => ["n", "e"]
  | some (.str "EC") => ["crv", "x", "y"]
  | some (.str "OKP") => ["crv", "x"]
  | some (.str "oct") => ["k"]
  | _ => ["kty"]

/-- A published key in a header: its kind is known and its members are texts. -/
def isKey (v : Value) : Bool :=
  (v.get? "kty").isSome && keyMembers v != ["kty"] &&
    (keyMembers v).all fun name => match v.get? name with
      | some (.str _) => true
      | _ => false

/-- A published key in a header. -/
def key : Codec Value := Codec.value.imap (fun v => if isKey v then some v else none) id

/-- The members that a header may have besides `alg`. -/
def own := Fields.cons (.optional "typ" Codec.text) <|
  .cons (.required "alg" algorithm) <|
  .cons (.optional "cty" Codec.text) <|
  .cons (.optional "jku" Codec.text) <|
  .cons (.optional "jwk" key) <|
  .cons (.optional "kid" Codec.text) <|
  .cons (.optional "x5u" Codec.text) <|
  .cons (.optional "x5c" Codec.text.listOf) <|
  .cons (.optional "x5t" Codec.text) <|
  .cons (.optional "x5t#S256" Codec.text) <|
  .cons (.optional "crit" Codec.text.listOf) <|
  .cons (.optional "enc" Codec.text) <|
  .cons (.optional "zip" Codec.text) <|
  .cons (.optional "url" Codec.text) <|
  .cons (.optional "nonce" Codec.text) .nil

/-- Reads the algorithm of a header. Members that are not known have to be texts. -/
def read (src : Source) (d : Doc) : Except Fault String :=
  match d with
  | .obj members closed => do
    let src ← src.enter
    let (slots, others) ← Layered.readMembers own src closed own.emptySlots [] members
    let (_, alg, _) ← own.finish .missing slots
    for (_, v) in others do
      let _ ← Codec.text.ofValue v
    pure alg
  | d => .error d.unexpected

/-- Headers, of which the algorithm alone is kept. -/
def codec : Codec String := ⟨read, fun alg => .obj [("alg", .str alg)]⟩

end Header

/-! ## Claims that are checked -/

namespace Registered

/-- The claims that may not be repeated. -/
def singular : List String := ["exp", "nbf", "sub", "iss", "aud"]

/-- Some claim that may not be repeated is. -/
def hasRepeated (members : List (String × Value)) : Bool :=
  singular.any fun name => 1 < (members.filter (·.1 == name)).length

/-- A list or an object. -/
def isContainer : Value → Bool
  | .list _ | .obj _ => true
  | _ => false

/-- A list or an object with something in it. -/
def isFilled : Value → Bool
  | .list items => !items.isEmpty
  | .obj members => !members.isEmpty
  | _ => false

/-- A claim has a form in which it cannot even be passed over. -/
def hasBadForm (members : List (String × Value)) : Bool :=
  members.any fun m =>
    (m.1 == "sub" && isContainer m.2) || ((m.1 == "exp" || m.1 == "nbf") && isFilled m.2)

/-- The seconds of an `exp` claim: a number that is not negative and fits 64 bits, doubles rounded
to the nearest integer. -/
def expiry? : Value → Option Nat
  | .num (.int n) => if 0 ≤ n then some n.toNat else none
  | .num (.float x) =>
    if x.negative && !x.isZero then none
    else
      let n := x.roundHalfAway.toNat
      if n < Nat.pow 2 64 then some n else none
  | _ => none

/-- Checks the expiry of claims: there has to be one, and it has not passed. -/
def checkExpiry (claims : List (String × Value)) (now : Instant) : Except JwtError Unit :=
  match (Value.lookup "exp" claims).bind expiry? with
  | none => .error (.missingClaim "exp")
  | some exp => if (exp : Int) < now.unixSeconds then .error .expired else .ok ()

end Registered

/-! ## Tokens -/

/-- Cuts a list of characters at the last point. -/
def cutAtLastPoint? (cs : List Char) : Option (List Char × List Char) :=
  let back := cs.reverse
  match back.dropWhile (· != '.') with
  | [] => none
  | _ :: before => some (before.reverse, (back.takeWhile (· != '.')).reverse)

/-- The bytes of a part of a token. -/
def partBytes (cs : List Char) : Except JwtError Bytes :=
  match Base64.decode? Base64.urlSafe cs with
  | some bytes => .ok bytes
  | none => .error (.malformed .base64)

/-- Reads a part of a token as JSON. -/
def partJson {α : Type} (c : Codec α) (bytes : Bytes) : Except JwtError α :=
  match String.fromUTF8? ⟨bytes.toArray⟩ with
  | none => .error (.malformed .json)
  | some s => (c.decode s).mapError fun _ => .malformed .json

/-- Decodes a compact token, verifies its signature, and on request its expiry. -/
def decodeToken (token : String) (key : Rsa.PublicKey) (checkExpiry : Bool) (now : Instant) :
    Except JwtError Jwt := do
  if token.isEmpty then return {}
  let some (message, signature) := cutAtLastPoint? token.toList | throw (.malformed .invalidToken)
  let some (header, payload) := cutAtLastPoint? message | throw (.malformed .invalidToken)
  let alg ← partJson Header.codec (← partBytes header)
  if alg != "RS256" then throw (.malformed .invalidAlgorithm)
  let signature ← partBytes signature
  if !key.verify (utf8 (String.ofList message)) signature then throw .invalidSignature
  let payload ← partBytes payload
  let v ← partJson Codec.value payload
  let .obj members := v | throw (.malformed .json)
  if Registered.hasRepeated members || Registered.hasBadForm members then throw (.malformed .json)
  let claims := Value.sortMembers (Value.canonicalMembers members)
  if checkExpiry then Registered.checkExpiry claims now
  pure ⟨token, claims⟩

/-- The decoded tokens of a response. -/
structure DecodedResponse where
  response : TokenResponse
  access : Option Jwt
  identity : Option Jwt
  refresh : Option Jwt

/-- Decodes a token that is present and not empty. -/
def decodePresent (token : Option String) (key : Rsa.PublicKey) (now : Instant) :
    Except JwtError (Option Jwt) :=
  match token with
  | none => .ok none
  | some token => if token.isEmpty then .ok none else (decodeToken token key true now).map some

/-- Decodes every token of a response; the first that fails decides. -/
def decodeResponse (response : TokenResponse) (key : Rsa.PublicKey) (now : Instant) :
    Except JwtError DecodedResponse := do
  let access ← decodePresent (some response.accessToken) key now
  let identity ← decodePresent response.idToken key now
  let refresh ← decodePresent response.refreshToken key now
  pure ⟨response, access, identity, refresh⟩

end TokenAuthority
