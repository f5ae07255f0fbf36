import TokenAuthority.Settings.Basic

/-!
# Scope tokens

## Main definitions

* `GrantFlow` — the three grants.
* `OidcScope` — the OpenID Connect scopes, a fixed vocabulary.
* `Permission` — a permission on a resource, written `resource:permission`.
* `ScopeToken` — a token of a scope string: one of these, or a tolerated extension.
* `ScopeToken.ofText?` — the kind of a token under a flow and settings.
-/

set_option autoImplicit false

namespace TokenAuthority

/-- The grants. -/
inductive GrantFlow where
  | authorizationCode
  | refresh
  | clientCredentials
deriving DecidableEq

/-- The OAuth 2.0 name of a grant. -/
def GrantFlow.text : GrantFlow → String
  | .authorizationCode => "authorization_code"
  | .refresh => "refresh_token"
  | .clientCredentials => "client_credentials"

/-- The grants. -/
def GrantFlow.all : List GrantFlow := [.authorizationCode, .refresh, .clientCredentials]

/-- The OpenID Connect scopes. -/
inductive OidcScope where
  | openid
  | profile
  | email
  | address
  | phone
  | groups
  | attributes
  | offlineAccess
deriving DecidableEq

namespace OidcScope

/-- The vocabulary in its order. -/
def all : List OidcScope :=
  [.openid, .profile, .email, .address, .phone, .groups, .attributes, .offlineAccess]

/-- The token of a scope. -/
def text : OidcScope → String
  | .openid => "openid"
  | .profile => "profile"
  | .email => "email"
  | .address => "address"
  | .phone => "phone"
  | .groups => "groups"
  | .attributes => "attributes"
  | .offlineAccess => "offline_access"

/-- The scope of a token. -/
def ofText? (token : String) : Option OidcScope := all.find? fun s => s.text == token

end OidcScope

/-- A permission on a resource. -/
structure Permission where
  /-- The resource, an audience of access tokens. -/
  resource : String
  /-- The permission. -/
  permission : String
deriving DecidableEq

namespace Permission

/-- The token of a permission. -/
def text (p : Permission) : String := p.resource ++ ":" ++ p.permission

/-- The permission of a token: it has one colon, with something on both sides. -/
def ofText? (token : String) : Option Permission :=
  let resource := token.toList.takeWhile (· != ':')
  match token.toList.dropWhile (· != ':') with
  | [] => none
  | _ :: permission =>
    if resource.isEmpty || permission.isEmpty || permission.contains ':' then none
    else some ⟨String.ofList resource, String.ofList permission⟩

end Permission

/-- A token of a scope string. -/
inductive ScopeToken where
  | oidc (scope : OidcScope)
  | permission (permission : Permission)
  /-- A token without a colon that the settings list. -/
  | extension (token : String)
deriving DecidableEq

namespace ScopeToken

/-- The text of a token. -/
def text : ScopeToken → String
  | .oidc s => s.text
  | .permission p => p.text
  | .extension token => token

/-- The kind of a token. Extensions are not known to the client-credentials grant. -/
def ofText? (flow : GrantFlow) (settings : Settings) (token : String) : Option ScopeToken :=
  match OidcScope.ofText? token with
  | some s => some (.oidc s)
  | none =>
    match Permission.ofText? token with
    | some p => some (.permission p)
    | none =>
      if flow != .clientCredentials && settings.isScopeExtension token then some (.extension token)
      else none

/-- The OpenID Connect scope that a token is. -/
def oidc? : ScopeToken → Option OidcScope
  | .oidc s => some s
  | _ => none

/-- The permission that a token is. -/
def permission? : ScopeToken → Option Permission
  | .permission p => some p
  | _ => none

end ScopeToken

end TokenAuthority
