import TokenAuthority.Crypto.Sha256
import TokenAuthority.Encoding.Der

/-!
# RSA signatures

RSASSA-PKCS1-v1_5 with SHA-256: the hash is put behind a fixed padding to a number as long as the
modulus, which is raised to the private exponent.

## Main definitions

* `Rsa.PublicKey`, `Rsa.PrivateKey` — keys; `isSound` says which ones are used.
* `Rsa.PrivateKey.sign?` — the signature of a message.
* `Rsa.PublicKey.verify` — a signature is that of a message.
-/

set_option autoImplicit false

namespace TokenAuthority.Rsa

/-- A power modulo a number, by the binary digits of the exponent; `fuel` bounds their number. -/
def powModFrom (m : Nat) : Nat → Nat → Nat → Nat → Nat
  | 0, _, _, acc => acc
  | fuel + 1, b, e, acc =>
    if e = 0 then acc
    else powModFrom m fuel (b * b % m) (e / 2) (if e % 2 = 1 then acc * b % m else acc)

/-- A power modulo a number. -/
def powMod (b e m : Nat) : Nat := powModFrom m (Nat.log2 e + 1) (b % m) e (1 % m)

/-- The bytes of a number without leading zeros, the most significant first; `fuel` bounds their
number. -/
def bytesFrom : Nat → Nat → Bytes → Bytes
  | 0, _, acc => acc
  | fuel + 1, n, acc => if n = 0 then acc else bytesFrom fuel (n / 256) (UInt8.ofNat n :: acc)

/-- The bytes of a number without leading zeros; one zero byte for zero. -/
def bytesOfNat (n : Nat) : Bytes :=
  if n = 0 then [0] else bytesFrom (Nat.log2 n / 8 + 1) n []

/-- The bytes of a number, filled up with zeros at the front. -/
def fixedBytes (width n : Nat) : Bytes :=
  let bytes := bytesFrom (Nat.log2 n / 8 + 1) n []
  List.replicate (width - bytes.length) 0 ++ bytes

/-- A public key. -/
structure PublicKey where
  /-- The modulus. -/
  modulus : Nat
  /-- The public exponent. -/
  exponent : Nat
deriving DecidableEq

namespace PublicKey

/-- The length of the modulus in bytes. -/
def size (k : PublicKey) : Nat := if k.modulus = 0 then 0 else Nat.log2 k.modulus / 8 + 1

/-- The keys that are used: an odd modulus of at most 4096 bits, and an odd exponent from 3 on, of
at most 33 bits and below the modulus. -/
def isSound (k : PublicKey) : Bool :=
  k.modulus < Nat.pow 2 4096 && k.exponent < k.modulus && k.modulus % 2 == 1 &&
    k.exponent % 2 == 1 && 2 ≤ k.exponent && k.exponent < Nat.pow 2 33

end PublicKey

/-- What stands in front of a hash to name it as one of SHA-256. -/
def hashName : Bytes :=
  [0x30, 0x31, 0x30, 0x0d, 0x06, 0x09, 0x60, 0x86, 0x48, 0x01, 0x65, 0x03, 0x04, 0x02, 0x01, 0x05,
   0x00, 0x04, 0x20]

/-- The padded hash of a message; nothing if the modulus is too short for it. -/
def paddedHash? (size : Nat) (message : Bytes) : Option Bytes :=
  let tail := hashName ++ Sha256.hash message
  if size < tail.length + 11 then none
  else some (0 :: 1 :: (List.replicate (size - tail.length - 3) 0xff ++ 0 :: tail))

/-- A signature is that of a message: it is as long as the modulus, its number is below it, and its
power is the padded hash. -/
def PublicKey.verify (k : PublicKey) (message signature : Bytes) : Bool :=
  let s := Der.number signature
  k.isSound && signature.length == k.size && s < k.modulus &&
    match paddedHash? k.size message with
    | none => false
    | some padded => fixedBytes k.size (powMod s k.exponent k.modulus) == padded

/-- A private key with its two primes. -/
structure PrivateKey where
  /-- The public key. -/
  publicKey : PublicKey
  /-- The private exponent. -/
  exponent : Nat
  /-- The first prime. -/
  prime1 : Nat
  /-- The second prime. -/
  prime2 : Nat
deriving DecidableEq

namespace PrivateKey

/-- The keys that are used: the modulus is the product of the primes, and the exponents undo each
other modulo every prime. -/
def isSound (k : PrivateKey) : Bool :=
  k.publicKey.isSound && k.prime1 * k.prime2 == k.publicKey.modulus &&
    [k.prime1, k.prime2].all fun p => 1 < p && k.publicKey.exponent * k.exponent % (p - 1) == 1

/-- The signature of a message. -/
def sign? (k : PrivateKey) (message : Bytes) : Option Bytes := do
  let padded ← paddedHash? k.publicKey.size message
  some (fixedBytes k.publicKey.size (powMod (Der.number padded) k.exponent k.publicKey.modulus))

end PrivateKey

end TokenAuthority.Rsa
