import TokenAuthority.Crypto.Rsa
import TokenAuthority.Encoding.Pem

/-!
# RSA keys in files

## Main definitions

* `KeyFile.publicKey?` — the public key of a PEM text in either of the two usual forms.
* `KeyFile.privateKey?` — the private key of one.
* `KeyFile.signingContent?` — what a text offers for signing, which is looked into only when
  something is signed; `KeyFile.signingKey?` looks into it.
-/

set_option autoImplicit false

namespace TokenAuthority.KeyFile

open Der

/-- The object identifier of RSA keys, 1.2.840.113549.1.1.1, as its bytes. -/
def rsaObjectId : Bytes := [0x2a, 0x86, 0x48, 0x86, 0xf7, 0x0d, 0x01, 0x01, 0x01]

/-- Reads the algorithm of a key, which has to be RSA without parameters. -/
def rsaAlgorithm? (bytes : Bytes) : Option Bytes := do
  let (algorithm, rest) ← sequence? bytes
  let (objectId, parameters) ← tagged? 0x06 algorithm
  guard (objectId == rsaObjectId)
  let nothing ← alone? (tagged? 0x05 parameters)
  guard nothing.isEmpty
  some rest

/-- Reads a public key: the modulus and the exponent. -/
def pkcs1Public? (bytes : Bytes) : Option Rsa.PublicKey := do
  let content ← alone? (sequence? bytes)
  let (n, rest) ← unsigned? content
  let e ← alone? (unsigned? rest)
  let key : Rsa.PublicKey := ⟨n, e⟩
  if key.isSound then some key else none

/-- Reads a public key with its algorithm. -/
def subjectPublic? (bytes : Bytes) : Option Rsa.PublicKey := do
  let content ← alone? (sequence? bytes)
  let rest ← rsaAlgorithm? content
  let key ← alone? (bits? rest)
  pkcs1Public? key

/-- Reads a private key of two primes. -/
def pkcs1Private? (bytes : Bytes) : Option Rsa.PrivateKey := do
  let content ← alone? (sequence? bytes)
  let (version, rest) ← unsigned? content
  let (n, rest) ← unsigned? rest
  let (e, rest) ← unsigned? rest
  let (d, rest) ← unsigned? rest
  let (p, rest) ← unsigned? rest
  let (q, rest) ← unsigned? rest
  let (_, rest) ← unsigned? rest
  let (_, rest) ← unsigned? rest
  let _ ← alone? (unsigned? rest)
  let key : Rsa.PrivateKey := ⟨⟨n, e⟩, d, p, q⟩
  if version = 0 && key.isSound then some key else none

/-- The elements at the end of a private key are attributes or, in the second version, the public
key; `fuel` bounds their number. -/
def areExtensions (version : Nat) : Nat → Bytes → Bool
  | _, [] => version == 0
  | 0, _ => false
  | fuel + 1, bytes =>
    match element? bytes with
    | none => false
    | some (tag, _, rest) =>
      if tag == 0x81 then version == 1 && areExtensions 0 fuel rest
      else tag.toNat / 64 == 2 && areExtensions version fuel rest

/-- Reads a private key with its algorithm. -/
def pkcs8Private? (bytes : Bytes) : Option Rsa.PrivateKey := do
  let content ← alone? (sequence? bytes)
  let (version, rest) ← unsigned? content
  let rest ← rsaAlgorithm? rest
  let (key, rest) ← octets? rest
  guard (areExtensions version rest.length rest)
  pkcs1Private? key

/-- The public key of a PEM text. -/
def publicKey? (pem : String) : Option Rsa.PublicKey := do
  let block ← Pem.only? pem
  if block.label == "PUBLIC KEY" then subjectPublic? block.content
  else if block.label == "RSA PUBLIC KEY" then pkcs1Public? block.content
  else none

/-- The private key of a PEM text. -/
def privateKey? (pem : String) : Option Rsa.PrivateKey := do
  let block ← Pem.only? pem
  if block.label == "PRIVATE KEY" then pkcs8Private? block.content
  else if block.label == "RSA PRIVATE KEY" then pkcs1Private? block.content
  else none

/-! ## Signing -/

/-- The kinds of keys that an object identifier may name. -/
inductive KeyKind where
  | rsa
  | ellipticCurve
  | edwardsCurve
deriving DecidableEq

/-- The kind that an object identifier names. -/
def KeyKind.ofObjectId? (arcs : List Nat) : Option KeyKind :=
  if arcs = [1, 2, 840, 113549, 1, 1, 1] then some .rsa
  else if arcs = [1, 2, 840, 10045, 2, 1] then some .ellipticCurve
  else if arcs = [1, 3, 101, 112] then some .edwardsCurve
  else none

/-- What a PEM text offers for signing: under a label that names RSA the whole content, under a
general label the first string in it, provided that the first kind of key named in it is RSA. -/
def signingContent? (pem : String) : Option Bytes := do
  let block ← Pem.first? pem
  let blocks ← Der.blocks? block.content
  if block.label == "RSA PRIVATE KEY" || block.label == "RSA PUBLIC KEY" then some block.content
  else if ["PRIVATE KEY", "PUBLIC KEY", "CERTIFICATE"].contains block.label then
    match Der.findObjectIdIn? KeyKind.ofObjectId? blocks with
    | some .rsa => Der.firstStringIn? blocks
    | _ => none
  else none

/-- The private key in what a text offers for signing. -/
def signingKey? (content : Bytes) : Option Rsa.PrivateKey := pkcs1Private? content

end TokenAuthority.KeyFile
