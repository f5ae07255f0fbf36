import TokenAuthority.Config.Environment
import TokenAuthority.Config.File
import TokenAuthority.Settings.Validation

/-!
# Loading settings

Settings come from a file, if there is one, and from environment variables, which override the file
setting by setting. What neither of them sets has its default.

## Main definitions

* `Settings.ofMembers?` — the settings that the members of a configuration hold.
* `SettingsError` — why settings cannot be had, with its wording.
* `Settings.load` — the settings of a file and an environment, which are valid.
-/

set_option autoImplicit false

namespace TokenAuthority

/-- Why settings cannot be had. -/
inductive SettingsError where
  /-- A source cannot be read. -/
  | unreadable
  /-- A setting has a value that cannot be converted. -/
  | mistyped
  | invalid (fault : SettingsFault)
deriving DecidableEq

/-- The wording of an error. -/
def SettingsError.message : SettingsError → String
  | .unreadable => "Failed to load configuration: config build error"
  | .mistyped => "Failed to load configuration: config deserialize error"
  | .invalid fault => "Invalid configuration value: " ++ fault.message

namespace Settings

open Config (Members Value)

/-- The converted value of a setting; the default if the setting is not mentioned. -/
def setting {α : Type} (members : Members) (name : String) (convert : Value → Option α)
    (default : α) : Option α :=
  match Config.lookup name members with
  | none => some default
  | some v => convert v

/-- The settings that the members of a configuration hold. Members of other names do not matter. -/
def ofMembers? (members : Members) : Option Settings := do
  let defaults : Settings := {}
  let seconds (name : String) (default : Int) := setting members name Value.integer? default
  some {
    issuer := ← setting members "issuer" Value.text? defaults.issuer
    tokenExpiration := ← seconds "token_expiration_in_seconds" defaults.tokenExpiration
    sessionIdleTimeout :=
      ← seconds "user_session_idle_timeout_in_seconds" defaults.sessionIdleTimeout
    sessionMaxLifetime :=
      ← seconds "user_session_max_lifetime_in_seconds" defaults.sessionMaxLifetime
    offlineIdleTimeout :=
      ← seconds "refresh_token_offline_idle_timeout_in_seconds" defaults.offlineIdleTimeout
    offlineMaxLifetime :=
      ← seconds "refresh_token_offline_max_lifetime_in_seconds" defaults.offlineMaxLifetime
    claimsInAccessToken :=
      ← setting members "include_open_id_connect_claims_in_access_token" Value.flag?
        defaults.claimsInAccessToken
    scopeExtensions :=
      ← setting members "oidc_scope_extensions" Value.texts? defaults.scopeExtensions }

/-- The members of a file; none without a file. -/
def fileLayer (file : Option Config.File) : Except SettingsError Members :=
  match file with
  | none => .ok []
  | some file =>
    match file.members? with
    | some members => .ok members
    | none => .error .unreadable

/-- The settings of a file and an environment, which have to be valid. -/
def load (file : Option Config.File) (env : List (String × String)) :
    Except SettingsError Settings := do
  let members := Config.overlay [] (← fileLayer file)
  let members := Config.overlay members (Config.environmentLayer env)
  match ofMembers? members with
  | none => throw .mistyped
  | some settings =>
    match settings.fault? with
    | none => pure settings
    | some fault => throw (.invalid fault)

end Settings

end TokenAuthority
