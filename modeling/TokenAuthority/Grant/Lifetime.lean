import TokenAuthority.Error
import TokenAuthority.Number.Word
import TokenAuthority.Record.Client
import TokenAuthority.Record.Session

/-!
# Lifetimes of tokens

## Main definitions

* `accessTokenLifetime` — seconds that access and ID tokens live.
* `expiryAfter` — the expiry of a lifetime that starts at an instant.
* `RefreshLifetime` — how long a refresh token lives and when it ends.
* `offlineRefreshLifetime` — bounded by the offline lifetime and the cutoff of the chain.
* `windowLeft`, `Session.remaining` — what is left of a window, and of the shorter one of a session.
* `sessionRefreshLifetime` — bounded by the two windows of a session.

## Implementation notes

What is left of a window is a difference of 64 bits that nothing checks. It is too long if a window
is almost as long as 64 bits allow and begins after the present instant, and wraps around then, or
ends the program where overflows are looked for. Valid settings have no such windows.
-/

set_option autoImplicit false

namespace TokenAuthority

/-- How long a refresh token lives. -/
structure RefreshLifetime where
  /-- Whole seconds until the expiry. -/
  expiresIn : Int
  /-- The expiry. -/
  expiresAt : Instant
  /-- The cutoff of an offline chain. -/
  maxLifetime : Option Instant
deriving DecidableEq

/-- Seconds that access and ID tokens of a client live. -/
def accessTokenLifetime (client : Client) (settings : Settings) : Int :=
  client.effectiveTokenExpiration settings

/-- The instant some seconds later. -/
def expiryAfter (now : Instant) (seconds : Int) : Except AuthError Instant :=
  match now.addSeconds? seconds with
  | some t => .ok t
  | none => .error (.lifetimeOutOfRange seconds)

/-- The lifetime of an offline refresh token. The first token of a chain fixes the cutoff; the later
ones end at the cutoff at the latest. -/
def offlineRefreshLifetime (client : Client) (settings : Settings) (now : Instant)
    (cutoff : Option Instant) : Except AuthError RefreshLifetime := do
  let windowEnd ← expiryAfter now (client.effectiveOfflineMaxLifetime settings)
  let cutoff := cutoff.getD windowEnd
  let expiresAt := windowEnd.earlier cutoff
  let expiresIn := now.secondsUntil expiresAt
  if expiresIn ≤ 0 then throw .offlineCutoff
  pure ⟨expiresIn, expiresAt, some cutoff⟩

/-- The seconds that are left of a window: its length less the whole seconds since its start, as an
integer of 64 bits. Instants that no clock shows do not occur; for these the difference is not cut. -/
def windowLeft (window : Int) (start now : Instant) : Int :=
  let left := window - start.secondsUntil now
  if start.OnClock ∧ now.OnClock then wrapToWord left else left

/-- The seconds that are left of the shorter window of a session. -/
def Session.remaining (session : Session) (settings : Settings) (now : Instant) : Int :=
  min (windowLeft settings.sessionIdleTimeout session.lastAccessed now)
    (windowLeft settings.sessionMaxLifetime session.started now)

/-- The lifetime of a refresh token of a session: what is left of the shorter window. -/
def sessionRefreshLifetime (session : Session) (settings : Settings) (now : Instant) :
    Except AuthError RefreshLifetime := do
  let expiresIn := session.remaining settings now
  if expiresIn ≤ 0 then throw .sessionExpired
  let expiresAt ← expiryAfter now expiresIn
  pure ⟨expiresIn, expiresAt, none⟩

end TokenAuthority
