import TokenAuthority.Text.Blank
import TokenAuthority.Scope.Token
import TokenAuthority.Claims.Audience
import TokenAuthority.Error

/-!
# Resolved scopes

A scope string is cut into words, every word is classified, repetitions are dropped, and where an
OpenID Connect scope is present outside the client-credentials grant, the permission to call the
userinfo endpoint is added at the end.

## Main definitions

* `ResolvedScope` — a flow and the tokens granted in it, in order.
* `ResolvedScope.resolve` — the scope of a string, or the first word that is no token.
* `ResolvedScope.text` — the tokens joined by single blanks.
* `ResolvedScope.audiences`, `ResolvedScope.permissionsByAudience` — who may be addressed with it.
* `isSubset` — every word of one string is one of another.
-/

set_option autoImplicit false

namespace TokenAuthority

/-- The resource of the server itself. -/
def serverResource : String := "authserver"

/-- The permission to call the userinfo endpoint. -/
def userinfoPermission : Permission := ⟨serverResource, "userinfo"⟩

/-- A scope whose tokens are known, each there once. -/
structure ResolvedScope where
  /-- The grant that it was resolved for. -/
  flow : GrantFlow
  /-- The tokens in order. -/
  tokens : List ScopeToken
deriving DecidableEq

namespace ResolvedScope

/-- Classifies words up to the first one that is no token. -/
def classify (flow : GrantFlow) (settings : Settings) :
    List String → Except AuthError (List ScopeToken)
  | [] => .ok []
  | word :: rest =>
    match ScopeToken.ofText? flow settings word with
    | none => .error (.invalidScope word)
    | some token => (classify flow settings rest).map (token :: ·)

/-- An OpenID Connect scope is among the tokens, in a grant for a user. -/
def impliesUserinfo (flow : GrantFlow) (tokens : List ScopeToken) : Bool :=
  flow != .clientCredentials && tokens.any fun t => t.oidc?.isSome

/-- Adds the userinfo permission at the end where it is implied and absent. -/
def addUserinfo (flow : GrantFlow) (tokens : List ScopeToken) : List ScopeToken :=
  let userinfo := ScopeToken.permission userinfoPermission
  if impliesUserinfo flow tokens && !tokens.contains userinfo then tokens ++ [userinfo] else tokens

/-- The scope of a string under a flow and settings. -/
def resolve (scope : String) (flow : GrantFlow) (settings : Settings) :
    Except AuthError ResolvedScope := do
  let tokens ← classify flow settings (words scope)
  pure ⟨flow, addUserinfo flow tokens.eraseDups⟩

/-- The scope as a string: its tokens joined by single blanks. -/
def text (scope : ResolvedScope) : String := " ".intercalate (scope.tokens.map ScopeToken.text)

/-- The OpenID Connect scopes in order. -/
def oidcScopes (scope : ResolvedScope) : List OidcScope := scope.tokens.filterMap ScopeToken.oidc?

/-- The permissions in order. -/
def permissions (scope : ResolvedScope) : List Permission :=
  scope.tokens.filterMap ScopeToken.permission?

/-- The OpenID Connect scope is granted. -/
def has (scope : ResolvedScope) (s : OidcScope) : Bool := scope.oidcScopes.contains s

/-- Some OpenID Connect scope is granted. -/
def hasOidc (scope : ResolvedScope) : Bool := !scope.oidcScopes.isEmpty

/-- The resources on which there are permissions, each once. -/
def resources (scope : ResolvedScope) : List String :=
  (scope.permissions.map (·.resource)).eraseDups

/-- The audiences of an access token: the server comes first where an OpenID Connect scope implies
it. -/
def audiences (scope : ResolvedScope) : List String :=
  if impliesUserinfo scope.flow scope.tokens then
    (serverResource :: scope.resources).eraseDups
  else scope.resources

/-- The `aud` claim of an access token. -/
def audience? (scope : ResolvedScope) : Option Audience := Audience.ofValues? scope.audiences

/-- The permissions of every resource. -/
def permissionsByAudience (scope : ResolvedScope) : List (String × List String) :=
  scope.resources.map fun resource =>
    (resource,
      ((scope.permissions.filter (·.resource == resource)).map (·.permission)).eraseDups)

end ResolvedScope

/-- Every word of one string is a word of the other. -/
def isSubset (requested granted : String) : Bool :=
  (words requested).all fun word => (words granted).contains word

end TokenAuthority
