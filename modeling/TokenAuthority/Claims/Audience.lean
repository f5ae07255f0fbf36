import TokenAuthority.Json.Reader

/-!
# Audiences

The `aud` claim is a text for one audience and a list for several.
-/

set_option autoImplicit false

namespace TokenAuthority

/-- The `aud` claim. -/
inductive Audience where
  | single (value : String)
  | several (values : List String)
deriving DecidableEq

namespace Audience

/-- The claim for some audiences; none for no audience. -/
def ofValues? : List String → Option Audience
  | [] => none
  | [value] => some (.single value)
  | values => some (.several values)

/-- The audiences in order. -/
def values : Audience → List String
  | .single value => [value]
  | .several values => values

/-- The audience is among those of the claim. -/
def has (aud : Audience) (audience : String) : Bool := aud.values.contains audience

open Json in
/-- The JSON form: a text, or a list of texts. The whole value is read before it is judged. -/
def codec : Codec Audience where
  read src d := do
    let v ← Codec.readValue src d
    match Codec.text.ofValue v with
    | .ok value => pure (.single value)
    | .error _ =>
      match Codec.text.listOf.ofValue v with
      | .ok values => pure (.several values)
      | .error _ => throw .mismatch
  write
    | .single value => .str value
    | .several values => .list (values.map .str)

end Audience

end TokenAuthority
