import TokenAuthority.Json.Record
import TokenAuthority.Record.Scalar

/-!
# Sessions

A session of a user bounds the refresh tokens issued in it by two windows: one from its start, and
one from the time of its last use.
-/

set_option autoImplicit false

namespace TokenAuthority

open Json

/-- A session of a user in a browser or on a device. -/
structure Session where
  /-- The number of the session. -/
  id : Int
  /-- The name under which it is stored. -/
  identifier : String
  /-- The number of the user. -/
  userId : Int
  /-- The level of assurance that was reached. -/
  acrLevel : String
  /-- The methods of authentication. -/
  authMethods : String
  /-- When it was started. -/
  started : Instant
  /-- When it was used last. -/
  lastAccessed : Instant
deriving DecidableEq

namespace Session

/-- A session that starts, and is used, at an instant. -/
def start (id : Int) (identifier : String) (userId : Int) (started : Instant) : Session :=
  ⟨id, identifier, userId, "", "", started, started⟩

/-- The JSON form of sessions. -/
def record : Record Session where
  fields :=
    .cons (.required "id" Codec.integer) <|
    .cons (.required "sessionIdentifier" Codec.text) <|
    .cons (.required "userId" Codec.integer) <|
    .cons (.required "acrLevel" Codec.text) <|
    .cons (.required "authMethods" Codec.text) <|
    .cons (.required "started" Instant.codec) <|
    .cons (.required "lastAccessed" Instant.codec) .nil
  unpack s := (s.id, s.identifier, s.userId, s.acrLevel, s.authMethods, s.started, s.lastAccessed,
    ())
  pack := fun (id, identifier, userId, acrLevel, authMethods, started, lastAccessed, _) =>
    ⟨id, identifier, userId, acrLevel, authMethods, started, lastAccessed⟩

end Session

end TokenAuthority
