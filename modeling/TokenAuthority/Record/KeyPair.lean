import TokenAuthority.Json.Record
import TokenAuthority.Text.Quoted

/-!
# Signing keys and published keys

## Main definitions

* `KeyPair` — a signing key with the identifier that tokens and published keys carry.
* `KeyPair.summary` — what may be shown of a key pair.
* `Jwk`, `Jwks` — a published key, and a set of them; `Jwks.find?` looks one up.
-/

set_option autoImplicit false

namespace TokenAuthority

open Json

/-- A signing key. -/
structure KeyPair where
  /-- The number of the key. -/
  id : Int
  /-- The identifier that tokens and published keys carry. -/
  identifier : String
  /-- The private key in PEM form. -/
  privatePem : String
  /-- The public key in PEM form; where it is blank the public key is that of the private one. -/
  publicPem : String
deriving DecidableEq

namespace KeyPair

/-- The JSON form of key pairs. -/
def record : Record KeyPair where
  fields :=
    .cons (.required "id" Codec.integer) <|
    .cons (.required "keyIdentifier" Codec.text) <|
    .cons (.required "privateKeyPem" Codec.text) <|
    .cons (.withDefault "publicKeyPem" Codec.text "") .nil
  unpack k := (k.id, k.identifier, k.privatePem, k.publicPem, ())
  pack := fun (id, identifier, privatePem, publicPem, _) => ⟨id, identifier, privatePem, publicPem⟩

/-- A key pair in a diagnostic, without its keys. -/
def summary (k : KeyPair) : String :=
  "KeyPair \x7b id: " ++ toString k.id ++ ", key_identifier: " ++ quotedText k.identifier ++
    ", .. \x7d"

end KeyPair

/-- A published RSA key. -/
structure Jwk where
  /-- The kind of key. -/
  kty : String
  /-- The identifier of the key. -/
  kid : String
  /-- What the key is for. -/
  use : String
  /-- The algorithm that the key is for. -/
  alg : String
  /-- The modulus in base64url. -/
  n : String
  /-- The public exponent in base64url. -/
  e : String
deriving DecidableEq

/-- The JSON form of published keys. -/
def Jwk.record : Record Jwk where
  fields :=
    .cons (.required "kty" Codec.text) <|
    .cons (.required "kid" Codec.text) <|
    .cons (.required "use" Codec.text) <|
    .cons (.required "alg" Codec.text) <|
    .cons (.required "n" Codec.text) <|
    .cons (.required "e" Codec.text) .nil
  unpack k := (k.kty, k.kid, k.use, k.alg, k.n, k.e, ())
  pack := fun (kty, kid, use, alg, n, e, _) => ⟨kty, kid, use, alg, n, e⟩

/-- A set of published keys. -/
structure Jwks where
  /-- The keys in order. -/
  keys : List Jwk
deriving DecidableEq

namespace Jwks

/-- The JSON form of key sets. -/
def record : Record Jwks where
  fields := .cons (.required "keys" Jwk.record.codec.listOf) .nil
  unpack s := (s.keys, ())
  pack := fun (keys, _) => ⟨keys⟩

/-- The first key of a given identifier. -/
def find? (s : Jwks) (kid : String) : Option Jwk := s.keys.find? fun k => k.kid == kid

end Jwks

end TokenAuthority
