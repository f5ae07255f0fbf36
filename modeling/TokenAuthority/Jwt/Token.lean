import TokenAuthority.Claims.Basic
import TokenAuthority.Jwt.Error
import TokenAuthority.Number.Decimal
import TokenAuthority.Text.Blank
import TokenAuthority.Time.Instant

/-!
# Decoded tokens

A decoded token is its text with its claims. The claims can be read one by one, with a default for
a claim that is absent or of another type, or all together as one of the typed claim sets.

## Main definitions

* `Jwt` — a decoded token.
* `Jwt.string`, `Jwt.flag`, `Jwt.integer?`, `Jwt.time?`, `Jwt.address`, `Jwt.audience`,
  `Jwt.scopes` — the claims one by one.
* `Jwt.claimsAs` — the claims as a typed claim set.
-/

set_option autoImplicit false

namespace TokenAuthority

open Json

/-- A decoded token. The claims are those of a JSON object, each name once. -/
structure Jwt where
  /-- The compact text. -/
  token : String := ""
  /-- The claims. -/
  claims : List (String × Value) := []

namespace Jwt

/-- The result of decoding an empty text. -/
def isEmpty (t : Jwt) : Bool := t.token.isEmpty && t.claims.isEmpty

/-- The value of a claim. -/
def claim? (t : Jwt) (name : String) : Option Value := Value.lookup name t.claims

/-- A claim that is a text; the empty text otherwise. -/
def string (t : Jwt) (name : String) : String :=
  match t.claim? name with
  | some (.str s) => s
  | _ => ""

/-- A claim that is a truth value; false otherwise. -/
def flag (t : Jwt) (name : String) : Bool :=
  match t.claim? name with
  | some (.bool b) => b
  | _ => false

/-- The integer of a number: doubles are cut toward zero, and what is beyond 64 bits is brought to
their ends. -/
def integerOf : Number → Int
  | .int n => clampToWord n
  | .float x => clampToWord x.truncate

/-- A claim that is a number, as an integer. -/
def integer? (t : Jwt) (name : String) : Option Int :=
  match t.claim? name with
  | some (.num n) => some (integerOf n)
  | _ => none

/-- A claim that is a number of seconds since 1970, as an instant. -/
def time? (t : Jwt) (name : String) : Option Instant :=
  (t.integer? name).bind Instant.ofUnixSeconds?

/-- The `address` claim; an empty address if there is none. -/
def address (t : Jwt) : AddressClaim :=
  match (t.claim? "address").map AddressClaim.record.codec.ofValue with
  | some (.ok a) => a
  | _ => {}

/-- The `aud` claim as a list. -/
def audience (t : Jwt) : List String :=
  match (t.claim? "aud").map Audience.codec.ofValue with
  | some (.ok a) => a.values
  | _ => []

/-- The audience is among those of the token. -/
def hasAudience (t : Jwt) (audience : String) : Bool := t.audience.contains audience

/-- The words of the `scope` claim. -/
def scopes (t : Jwt) : List String := words (t.string "scope")

/-- The word is in the `scope` claim. -/
def hasScope (t : Jwt) (scope : String) : Bool := t.scopes.contains scope

/-- The token was issued by this issuer, which has a name. -/
def isIssuedBy (t : Jwt) (issuer : String) : Bool := !issuer.isEmpty && t.string "iss" == issuer

/-- The token carries this nonce, which is not empty. -/
def hasNonce (t : Jwt) (nonce : String) : Bool := !nonce.isEmpty && t.string "nonce" == nonce

/-- The `typ` claim. -/
def type (t : Jwt) : String := t.string "typ"

/-- The `jti` claim. -/
def jti (t : Jwt) : String := t.string "jti"

/-- The `sub` claim. -/
def subject (t : Jwt) : String := t.string "sub"

/-- The claims as a typed claim set. -/
def claimsAs {α : Type} (t : Jwt) (c : Codec α) : Except JwtError α :=
  (c.ofValue (.obj t.claims)).mapError fun _ => .mistyped

/-- The claims of a JSON text, which has to be an object; the last of several claims of a name is
kept. -/
def claimsCodec : Codec (List (String × Value)) where
  read src d := match d with
    | .obj _ _ => do
      match (← Codec.readValue src d).canonical with
      | .obj members => pure members
      | _ => throw .mismatch
    | d => .error d.unexpected
  write members := .obj members

end Jwt

end TokenAuthority
