import TokenAuthority.Crypto.KeyFile
import TokenAuthority.Jwt.Error
import TokenAuthority.Record.KeyPair
import TokenAuthority.Text.Blank

/-!
# Keys of signed tokens

## Main definitions

* `SigningKey` — what a key pair offers for signing, with its identifier.
* `KeyPair.signingKey` — the signing key of a pair.
* `KeyPair.publicKey` — its public key: the one given with it, or else that of the private key.
* `KeyPair.toJwk` — its published key.
* `Jwk.verificationKey`, `KeyPair.verificationKey`, `verificationKeyOfPem` — keys to verify with.

## Implementation notes

A published key is good for verifying as soon as its numbers can be read. Whether they make a sound
RSA key shows when a signature is verified.
-/

set_option autoImplicit false

namespace TokenAuthority

/-- What a key pair offers for signing. -/
structure SigningKey where
  /-- The identifier that tokens carry. -/
  identifier : String
  /-- The private key as it was found, not looked into. -/
  content : Bytes
deriving DecidableEq

/-- The signing key of a pair. -/
def KeyPair.signingKey (k : KeyPair) : Except JwtError SigningKey :=
  match KeyFile.signingContent? k.privatePem with
  | some content => .ok ⟨k.identifier, content⟩
  | none => .error .invalidKey

/-- The public key of a PEM text. -/
def publicKeyOfPem (pem : String) : Except JwtError Rsa.PublicKey :=
  match KeyFile.publicKey? pem with
  | some key => .ok key
  | none => .error .invalidKey

/-- The public key of a pair. -/
def KeyPair.publicKey (k : KeyPair) : Except JwtError Rsa.PublicKey :=
  if isBlankText k.publicPem then
    match KeyFile.privateKey? k.privatePem with
    | some key => .ok key.publicKey
    | none => .error .invalidKey
  else publicKeyOfPem k.publicPem

/-- A number in base64url. -/
def numberText (n : Nat) : String :=
  String.ofList (Base64.encode Base64.urlSafe (Rsa.bytesOfNat n))

/-- The number of a base64url text. -/
def numberOfText? (s : String) : Option Nat :=
  (Base64.decode? Base64.urlSafe s.toList).map Der.number

/-- The published key of a pair. -/
def KeyPair.toJwk (k : KeyPair) : Except JwtError Jwk := do
  let key ← k.publicKey
  pure {
    kty := "RSA", kid := k.identifier, use := "sig", alg := "RS256"
    n := numberText key.modulus, e := numberText key.exponent }

/-- The key to verify with that is published. -/
def Jwk.verificationKey (k : Jwk) : Except JwtError Rsa.PublicKey :=
  match numberOfText? k.n, numberOfText? k.e with
  | some n, some e => .ok ⟨n, e⟩
  | _, _ => .error .invalidKey

/-- The key to verify with of a pair. -/
def KeyPair.verificationKey (k : KeyPair) : Except JwtError Rsa.PublicKey := do
  (← k.toJwk).verificationKey

/-- The key to verify with of a PEM text. -/
def verificationKeyOfPem (pem : String) : Except JwtError Rsa.PublicKey := publicKeyOfPem pem

end TokenAuthority
