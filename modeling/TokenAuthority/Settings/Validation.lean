import TokenAuthority.Settings.Basic
import TokenAuthority.Url.Check

/-!
# Valid settings

## Main definitions

* `maxLifetime` — the upper bound of every lifetime.
* `SettingsFault` — what is wrong with settings, with its wording.
* `Settings.validate` — the first fault of settings.
* `Settings.isValid` — there is none.

## Main results

* `Settings.isValid_iff` — settings are valid part by part.
-/

set_option autoImplicit false

namespace TokenAuthority

/-- The upper bound of every lifetime: a hundred years of 365 days, in seconds. -/
def maxLifetime : Int := 100 * 365 * 86400

/-- What is wrong with settings. -/
inductive SettingsFault where
  | emptyIssuer
  | issuerNoUrl (issuer : String) (fault : UrlFault)
  | lifetimeNotPositive (name : String) (seconds : Int)
  | lifetimeTooLong (name : String) (seconds : Int)
  | badExtension (extension : String)
deriving DecidableEq

/-- The wording of a fault. -/
def SettingsFault.message : SettingsFault → String
  | .emptyIssuer => "issuer cannot be empty"
  | .issuerNoUrl issuer fault => "issuer '" ++ issuer ++ "' is not a valid URL: " ++ fault.message
  | .lifetimeNotPositive name seconds => name ++ " must be > 0, got " ++ toString seconds
  | .lifetimeTooLong name seconds =>
    name ++ " must be <= " ++ toString maxLifetime ++ ", got " ++ toString seconds
  | .badExtension extension =>
    "oidc_scope_extensions entry '" ++ extension ++ "' must be a non-empty token without ':'"

namespace Settings

/-- The lifetimes with their names, in the order in which they are judged. -/
def lifetimes (s : Settings) : List (String × Int) :=
  [("token_expiration_in_seconds", s.tokenExpiration),
    ("user_session_idle_timeout_in_seconds", s.sessionIdleTimeout),
    ("user_session_max_lifetime_in_seconds", s.sessionMaxLifetime),
    ("refresh_token_offline_idle_timeout_in_seconds", s.offlineIdleTimeout),
    ("refresh_token_offline_max_lifetime_in_seconds", s.offlineMaxLifetime)]

/-- The fault of an issuer: it has to be an absolute URL. -/
def issuerFault? (issuer : String) : Option SettingsFault :=
  if issuer.isEmpty then some .emptyIssuer
  else (Url.fault? issuer).map (.issuerNoUrl issuer)

/-- The fault of a lifetime: it is positive and not beyond the bound. -/
def lifetimeFault? (name : String) (seconds : Int) : Option SettingsFault :=
  if seconds ≤ 0 then some (.lifetimeNotPositive name seconds)
  else if maxLifetime < seconds then some (.lifetimeTooLong name seconds)
  else none

/-- The fault of an extension: it is not empty and has no colon. -/
def extensionFault? (extension : String) : Option SettingsFault :=
  if extension.isEmpty || extension.toList.contains ':' then some (.badExtension extension)
  else none

/-- The first fault of settings. -/
def fault? (s : Settings) : Option SettingsFault :=
  ((issuerFault? s.issuer).or (s.lifetimes.findSome? fun l => lifetimeFault? l.1 l.2)).or
    (s.scopeExtensions.findSome? extensionFault?)

/-- Accepts settings without a fault. -/
def validate (s : Settings) : Except SettingsFault Unit :=
  match s.fault? with
  | none => .ok ()
  | some fault => .error fault

/-- The settings have no fault. -/
def isValid (s : Settings) : Bool := s.fault?.isNone

/-- Settings are valid if the issuer, every lifetime and every extension is. -/
theorem isValid_iff {s : Settings} :
    s.isValid = true ↔
      issuerFault? s.issuer = none ∧
      (∀ l ∈ s.lifetimes, lifetimeFault? l.1 l.2 = none) ∧
      ∀ e ∈ s.scopeExtensions, extensionFault? e = none := by
  simp only [isValid, fault?, Option.isNone_iff_eq_none, Option.or_eq_none_iff,
    List.findSome?_eq_none_iff, and_assoc]

end Settings

end TokenAuthority
