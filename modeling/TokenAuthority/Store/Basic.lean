import TokenAuthority.Error
import TokenAuthority.Record.Client
import TokenAuthority.Record.Code
import TokenAuthority.Record.KeyPair
import TokenAuthority.Record.RefreshToken
import TokenAuthority.Record.Session
import TokenAuthority.Record.User
import TokenAuthority.Store.Table

/-!
# The store

## Main definitions

* `Store` — all records of the server, and the counter from which codes and rows draw their numbers.
* `Store.insertUser`, `Store.addUserToGroup`, `Store.loadRelations` — users with their groups and
  attributes.
* `Store.createCode`, `Store.markCodeUsed` — authorization codes.
* `Store.touchSession` — sessions.
* `Store.loadCode` — the client and the user of a code.

## Design

An operation that can fail and that changes the store even so returns its result next to the store.
-/

set_option autoImplicit false

namespace TokenAuthority

/-- The groups that a user was added to, in order. -/
structure Membership where
  user : Int
  groups : List Int

/-- The attributes of a user or a group. -/
structure OwnedAttributes where
  owner : Int
  attributes : List Attribute

/-- Which row replaced a row. -/
structure Succession where
  /-- The token of the row that was replaced. -/
  previous : String
  /-- The token of the row that replaced it. -/
  jti : String

/-- All records of the server. -/
structure Store where
  clients : Table Client.id := .empty
  users : Table User.id := .empty
  groups : Table Group.id := .empty
  memberships : Table Membership.user := .empty
  groupAttributes : Table OwnedAttributes.owner := .empty
  userAttributes : Table OwnedAttributes.owner := .empty
  codes : Table Code.value := .empty
  sessions : Table Session.identifier := .empty
  rows : Table RefreshToken.jti := .empty
  /-- The rows that were replaced, each with the one that replaced it. -/
  successions : Table Succession.previous := .empty
  signingKey : Option KeyPair := none
  /-- The number that the next code or row is given. -/
  nextId : Int := 1

namespace Store

/-! ## Clients -/

/-- Stores a client in place of the one of its number. -/
def insertClient (s : Store) (c : Client) : Store := { s with clients := s.clients.put c }

/-- The client of a number. -/
def client? (s : Store) (id : Int) : Option Client := s.clients.find? id

/-- The client of a name. -/
def clientNamed? (s : Store) (identifier : String) : Option Client :=
  s.clients.records.find? fun c => c.identifier == identifier

/-! ## Users, groups and attributes -/

/-- Stores a user in place of the one of its number, without groups and attributes. -/
def insertUser (s : Store) (u : User) : Store :=
  { s with users := s.users.put { u with groups := [], attributes := [] } }

/-- The user of a number, without groups and attributes. -/
def user? (s : Store) (id : Int) : Option User := s.users.find? id

/-- Stores a group in place of the one of its number, without attributes. -/
def insertGroup (s : Store) (g : Group) : Store :=
  { s with groups := s.groups.put { g with attributes := [] } }

/-- The groups that a user was added to. -/
def groupsOf (s : Store) (user : Int) : List Int :=
  ((s.memberships.find? user).map (·.groups)).getD []

/-- Adds a user to a group; both have to be there. -/
def addUserToGroup (s : Store) (user group : Int) : Except AuthError Store :=
  if !s.users.has user then .error (.userMissing user)
  else if !s.groups.has group then .error (.groupMissing group)
  else
    let groups := s.groupsOf user
    let groups := if groups.contains group then groups else groups ++ [group]
    .ok { s with memberships := s.memberships.put ⟨user, groups⟩ }

/-- Sets the attributes of a group. -/
def setGroupAttributes (s : Store) (group : Int) (attributes : List Attribute) : Store :=
  { s with groupAttributes := s.groupAttributes.put ⟨group, attributes⟩ }

/-- Sets the attributes of a user. -/
def setUserAttributes (s : Store) (user : Int) (attributes : List Attribute) : Store :=
  { s with userAttributes := s.userAttributes.put ⟨user, attributes⟩ }

/-- The attributes in a table of an owner. -/
def attributesIn (t : Table OwnedAttributes.owner) (owner : Int) : List Attribute :=
  ((t.find? owner).map (·.attributes)).getD []

/-- The groups of a user with their attributes. -/
def loadGroups (s : Store) (user : Int) : List Group :=
  (s.groupsOf user).filterMap fun id =>
    (s.groups.find? id).map fun g => { g with attributes := attributesIn s.groupAttributes g.id }

/-- A user with groups and attributes as they are stored. -/
def loadRelations (s : Store) (u : User) : User :=
  { u with groups := s.loadGroups u.id, attributes := attributesIn s.userAttributes u.id }

/-! ## Authorization codes -/

/-- Stores a code under the next number. The number is drawn even if the value is taken. -/
def createCode (s : Store) (c : Code) : Except AuthError Code × Store :=
  let c := { c with id := s.nextId }
  let s := { s with nextId := s.nextId + 1 }
  match s.codes.insertNew? c with
  | none => (.error .codeExists, s)
  | some codes => (.ok c, { s with codes })

/-- The code of a value. -/
def code? (s : Store) (value : String) : Option Code := s.codes.find? value

/-- Marks a code as exchanged; it has to be there and not to be marked. -/
def markCodeUsed (s : Store) (value : String) : Except AuthError Store :=
  match s.code? value with
  | none => .error .codeUnknown
  | some c =>
    if c.used then .error .codeUsed
    else .ok { s with codes := s.codes.modify value fun c => { c with used := true } }

/-- The client of a code. -/
def codeClient (s : Store) (c : Code) : Except AuthError Client :=
  match s.client? c.clientId with
  | some client => .ok client
  | none => .error (.codeClientMissing c.clientId c.id)

/-- The user of a code, without groups and attributes. -/
def codeUser (s : Store) (c : Code) : Except AuthError User :=
  match s.user? c.userId with
  | some user => .ok user
  | none => .error (.codeUserMissing c.userId c.id)

/-- The client of a code, and its user with groups and attributes. -/
def loadCode (s : Store) (c : Code) : Except AuthError (Client × User) := do
  let client ← s.codeClient c
  let user ← s.codeUser c
  pure (client, s.loadRelations user)

/-! ## Sessions and the signing key -/

/-- Stores a session in place of the one of its name. -/
def insertSession (s : Store) (session : Session) : Store :=
  { s with sessions := s.sessions.put session }

/-- The session of a name. -/
def session? (s : Store) (identifier : String) : Option Session := s.sessions.find? identifier

/-- Notes that a session is used; nothing comes back if there is none of the name. -/
def touchSession? (s : Store) (identifier : String) (now : Instant) : Option Store :=
  if s.sessions.has identifier then
    some { s with
      sessions := s.sessions.modify identifier fun session => { session with lastAccessed := now } }
  else none

/-- Replaces the signing key. -/
def setSigningKey (s : Store) (k : KeyPair) : Store := { s with signingKey := some k }

/-- The signing key. -/
def currentSigningKey (s : Store) : Except AuthError KeyPair :=
  match s.signingKey with
  | some k => .ok k
  | none => .error .signingKeyMissing

end Store

end TokenAuthority
