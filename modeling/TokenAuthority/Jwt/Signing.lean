import TokenAuthority.Jwt.Key

/-!
# Signing tokens

A token in its compact form is three base64url texts with points between them: a header, the claims,
and the signature of the first two.

## Main definitions

* `SigningKey.header` — the header: the type, the algorithm and the identifier of the key.
* `SigningKey.sign` — the compact token of some claims.
-/

set_option autoImplicit false

namespace TokenAuthority

open Json

/-- The bytes of a text in UTF-8. -/
def utf8 (s : String) : Bytes := s.toUTF8.toList

/-- The base64url text of some bytes. -/
def base64url (bytes : Bytes) : String := String.ofList (Base64.encode Base64.urlSafe bytes)

/-- Joins the parts of a compact token. -/
def compact (header payload signature : String) : String :=
  header ++ "." ++ payload ++ "." ++ signature

namespace SigningKey

/-- The header of the tokens of a key. -/
def header (k : SigningKey) : Value :=
  .obj [("typ", .str "JWT"), ("alg", .str "RS256"), ("kid", .str k.identifier)]

/-- The signature of a message; only now is the private key looked into. -/
def signature (k : SigningKey) (message : Bytes) : Except JwtError Bytes :=
  match KeyFile.signingKey? k.content with
  | none => .error .unsigned
  | some key =>
    match key.sign? message with
    | none => .error .unsigned
    | some signature => .ok signature

/-- The compact token of some claims, written in the order in which they stand. -/
def sign (k : SigningKey) (claims : Value) : Except JwtError String := do
  let header := base64url (utf8 k.header.text)
  let payload := base64url (utf8 claims.text)
  let signature ← k.signature (utf8 (header ++ "." ++ payload))
  pure (compact header payload (base64url signature))

end SigningKey

end TokenAuthority
