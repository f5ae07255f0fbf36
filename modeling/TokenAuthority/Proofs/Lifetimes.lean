import Mathlib.Tactic.Lemma
import TokenAuthority.Grant.Issue
import TokenAuthority.Proofs.GrantPlan
import TokenAuthority.Proofs.Instants
import TokenAuthority.Settings.Validation

/-!
# Lifetimes of refresh tokens

What the two policies for refresh tokens come to. An offline token lives for the lifetime of the
client, and not beyond the cutoff of its chain; a token of a session lives for what is left of the
shorter window of the session.

## Main definitions

* `TokenAuthority.Session.secondsLeft` — what is left of the shorter window of a session, as an
  integer of any size.

## Main results

* `TokenAuthority.Settings.lifetime_pos` — the lifetimes of valid settings are positive.
* `TokenAuthority.ensureRedeemable_eq_ok_iff` — when a row may be redeemed.
* `TokenAuthority.offlineRefreshLifetime_eq_ok_iff`,
  `TokenAuthority.sessionRefreshLifetime_eq_ok_iff` — when there is a lifetime, and which.
* `TokenAuthority.windowLeft_eq` — what is left of a window does not wrap around if it fits 64 bits,
  and `TokenAuthority.inWord_sub_of_le_maxLifetime`, `TokenAuthority.inWord_sub_of_le` — it does.
* `TokenAuthority.Session.remaining_of_isValid` — so it is with sessions under valid settings.
* `TokenAuthority.Session.remaining_pos` — a session is open until the expiry of its tokens.
-/

set_option autoImplicit false

namespace TokenAuthority

/-! ## Valid settings -/

namespace Settings

variable {settings : Settings}

/-- The lifetimes of valid settings are positive and not beyond the bound. -/
lemma lifetime_bounds (h : settings.isValid = true) {l : String × Int}
    (hl : l ∈ settings.lifetimes) : 0 < l.2 ∧ l.2 ≤ maxLifetime := by
  have hnone : lifetimeFault? l.1 l.2 = none := (isValid_iff.mp h).2.1 l hl
  rw [lifetimeFault?] at hnone
  split at hnone
  · cases hnone
  · split at hnone
    · cases hnone
    · omega

/-- The lifetimes of valid settings are positive. -/
lemma lifetime_pos (h : settings.isValid = true) {l : String × Int} (hl : l ∈ settings.lifetimes) :
    0 < l.2 := (lifetime_bounds h hl).1

/-- The windows of a session under valid settings are positive and not beyond the bound. -/
lemma sessionWindows_bounds (h : settings.isValid = true) :
    (0 < settings.sessionIdleTimeout ∧ settings.sessionIdleTimeout ≤ maxLifetime) ∧
    0 < settings.sessionMaxLifetime ∧ settings.sessionMaxLifetime ≤ maxLifetime :=
  ⟨lifetime_bounds h (l := ("user_session_idle_timeout_in_seconds", _)) (by simp [lifetimes]),
    lifetime_bounds h (l := ("user_session_max_lifetime_in_seconds", _)) (by simp [lifetimes])⟩

end Settings

/-- Under valid settings the offline lifetime of every client is positive. -/
lemma Client.effectiveOfflineMaxLifetime_pos {settings : Settings} (h : settings.isValid = true)
    (client : Client) : 0 < client.effectiveOfflineMaxLifetime settings := by
  have hserver : 0 < settings.offlineMaxLifetime := Settings.lifetime_pos h
    (l := ("refresh_token_offline_max_lifetime_in_seconds", _)) (by simp [Settings.lifetimes])
  rw [effectiveOfflineMaxLifetime, overrideOr]
  split <;> omega

/-- There is an expiry where the instant can be represented. -/
lemma expiryAfter_eq_ok_iff {now t : Instant} {seconds : Int} :
    expiryAfter now seconds = .ok t ↔ now.addSeconds? seconds = some t := by
  rw [expiryAfter]
  cases now.addSeconds? seconds <;> simp

/-! ## Rows that may be redeemed -/

/-- A row has not expired before its expiry and before the cutoff of its chain. -/
lemma RefreshToken.isExpiredAt_eq_false_iff {row : RefreshToken} {now : Instant} :
    row.isExpiredAt now = false ↔
      row.expiresAt.le now = false ∧ ∀ cutoff ∈ row.maxLifetime, cutoff.le now = false := by
  rw [isExpiredAt, Bool.or_eq_false_iff]
  cases row.maxLifetime <;> simp

/-- A row is refused when it has expired, and then when it is an offline one that has gone unused for
too long. -/
lemma ensureRedeemable_eq (row : RefreshToken) (client : Client) (settings : Settings)
    (now : Instant) :
    ensureRedeemable row client settings now =
      if row.isExpiredAt now = true then .error .tokenExpired
      else if row.type = .offline ∧
          client.effectiveOfflineIdleTimeout settings < row.issuedAt.secondsUntil now then
        .error .offlineIdle
      else .ok () := by
  simp only [ensureRedeemable, RefreshToken.isOffline, Bool.and_eq_true, beq_iff_eq,
    decide_eq_true_eq]
  rfl

/-- A row may be redeemed until it expires and, if it is an offline one, as long as it has not gone
unused for too long. -/
lemma ensureRedeemable_eq_ok_iff {row : RefreshToken} {client : Client} {settings : Settings}
    {now : Instant} :
    ensureRedeemable row client settings now = .ok () ↔
      row.isExpiredAt now = false ∧ (row.type = .offline →
        row.issuedAt.secondsUntil now ≤ client.effectiveOfflineIdleTimeout settings) := by
  rw [ensureRedeemable_eq]
  split
  · simp [*]
  · split
    · rename_i hidle
      simp [hidle]
    · rename_i hexpired hidle
      simpa [hexpired] using hidle

/-! ## Offline tokens -/

section Offline

variable {client : Client} {settings : Settings} {now : Instant} {cutoff : Option Instant}

/-- The lifetime of an offline token, with the end of its window at hand. -/
lemma offlineRefreshLifetime_of_windowEnd {windowEnd : Instant}
    (h : now.addSeconds? (client.effectiveOfflineMaxLifetime settings) = some windowEnd) :
    offlineRefreshLifetime client settings now cutoff =
      if now.secondsUntil (windowEnd.earlier (cutoff.getD windowEnd)) ≤ 0 then .error .offlineCutoff
      else .ok ⟨now.secondsUntil (windowEnd.earlier (cutoff.getD windowEnd)),
        windowEnd.earlier (cutoff.getD windowEnd), some (cutoff.getD windowEnd)⟩ := by
  rw [offlineRefreshLifetime, expiryAfter_eq_ok_iff.mpr h]
  rfl

/-- There is a lifetime for an offline token exactly if the end of its window can be represented and
there are whole seconds left until the end of the window or the cutoff, whichever is earlier. The
end of the window is the cutoff of a chain that has none. -/
theorem offlineRefreshLifetime_eq_ok_iff {lifetime : RefreshLifetime} :
    offlineRefreshLifetime client settings now cutoff = .ok lifetime ↔
      ∃ windowEnd,
        now.addSeconds? (client.effectiveOfflineMaxLifetime settings) = some windowEnd ∧
        0 < now.secondsUntil (windowEnd.earlier (cutoff.getD windowEnd)) ∧
        lifetime = ⟨now.secondsUntil (windowEnd.earlier (cutoff.getD windowEnd)),
          windowEnd.earlier (cutoff.getD windowEnd), some (cutoff.getD windowEnd)⟩ := by
  constructor
  · intro h
    obtain ⟨windowEnd, hwindow, -⟩ := bind_ok h
    rw [expiryAfter_eq_ok_iff] at hwindow
    rw [offlineRefreshLifetime_of_windowEnd hwindow] at h
    split at h
    · cases h
    · rename_i hleft
      cases h
      exact ⟨windowEnd, hwindow, Int.not_le.mp hleft, rfl⟩
  · rintro ⟨windowEnd, hwindow, hleft, rfl⟩
    rw [offlineRefreshLifetime_of_windowEnd hwindow, if_neg (Int.not_le.mpr hleft)]

/-- Whole seconds are left until the end of a window, or an earlier cutoff, if the window is not
empty and whole seconds are left until the cutoff. -/
lemma secondsUntil_earlier_pos_iff {windowEnd : Instant} {seconds : Int}
    (h : now.addSeconds? seconds = some windowEnd) :
    0 < now.secondsUntil (windowEnd.earlier (cutoff.getD windowEnd)) ↔
      0 < seconds ∧ ∀ c ∈ cutoff, 0 < now.secondsUntil c := by
  have hend := Instant.utc_of_addSeconds? h
  rw [Instant.secondsUntil_pos_iff, Instant.utc_earlier]
  cases cutoff with
  | none =>
    rw [nanosPerSecond] at *
    simp
    omega
  | some c =>
    simp only [Option.getD_some, Option.mem_some_iff, forall_eq', Instant.secondsUntil_pos_iff]
    rw [nanosPerSecond] at *
    omega

end Offline

/-! ## Windows -/

section Windows

variable {window : Int} {start now : Instant}

/-- What is left of a window is the plain difference, if this fits 64 bits on a clock. -/
lemma windowLeft_eq
    (h : start.OnClock → now.OnClock → inWord (window - start.secondsUntil now) = true) :
    windowLeft window start now = window - start.secondsUntil now := by
  dsimp only [windowLeft]
  split
  · rename_i hclock
    exact wrapToWord_of_inWord (h hclock.1 hclock.2)
  · rfl

/-- What is left of a window fits 64 bits if the window is not longer than a lifetime may be. -/
lemma inWord_sub_of_le_maxLifetime (hpos : 0 < window) (hmax : window ≤ maxLifetime)
    (hstart : start.OnClock) (hnow : now.OnClock) :
    inWord (window - start.secondsUntil now) = true := by
  have hpassed := Instant.secondsUntil_bounds hstart hnow
  rw [maxLifetime] at hmax
  exact inWord_iff.mpr (by omega)

/-- What is left of a window that has begun fits 64 bits if its length does. -/
lemma inWord_sub_of_le (hpos : 0 < window) (hword : inWord window = true)
    (hbegun : start.le now = true) (hstart : start.OnClock) (hnow : now.OnClock) :
    inWord (window - start.secondsUntil now) = true := by
  have hpassed := Instant.secondsUntil_bounds hstart hnow
  have hnonneg := Instant.secondsUntil_nonneg (Instant.le_iff.mp hbegun)
  have hwindow := inWord_iff.mp hword
  exact inWord_iff.mpr (by omega)

end Windows

/-! ## Tokens of a session -/

/-- The whole seconds that are left of the shorter window of a session, however many they are. -/
def Session.secondsLeft (session : Session) (settings : Settings) (now : Instant) : Int :=
  min (settings.sessionIdleTimeout - session.lastAccessed.secondsUntil now)
    (settings.sessionMaxLifetime - session.started.secondsUntil now)

section Sessions

variable {session : Session} {settings : Settings} {now : Instant}

/-- The lifetime of a token of a session, in terms of what remains of the windows. -/
lemma sessionRefreshLifetime_eq :
    sessionRefreshLifetime session settings now =
      if session.remaining settings now ≤ 0 then .error .sessionExpired
      else (expiryAfter now (session.remaining settings now)).map
        fun expiresAt => ⟨session.remaining settings now, expiresAt, none⟩ := by
  dsimp only [sessionRefreshLifetime]
  split
  · rfl
  · cases expiryAfter now (session.remaining settings now) <;> rfl

/-- There is a lifetime for a token of a session exactly if something is left of both windows and
the end can be represented. -/
theorem sessionRefreshLifetime_eq_ok_iff {lifetime : RefreshLifetime} :
    sessionRefreshLifetime session settings now = .ok lifetime ↔
      0 < session.remaining settings now ∧
      ∃ expiresAt, now.addSeconds? (session.remaining settings now) = some expiresAt ∧
        lifetime = ⟨session.remaining settings now, expiresAt, none⟩ := by
  rw [sessionRefreshLifetime_eq, expiryAfter]
  split
  · simp
    omega
  · rename_i hleft
    cases now.addSeconds? (session.remaining settings now) with
    | none => simp [Except.map]
    | some expiresAt => simp [Except.map, Int.not_le.mp hleft, eq_comm]

/-- Seconds are left of both windows exactly if neither of them has closed. -/
lemma Session.secondsLeft_pos_iff :
    0 < session.secondsLeft settings now ↔
      session.lastAccessed.secondsUntil now < settings.sessionIdleTimeout ∧
      session.started.secondsUntil now < settings.sessionMaxLifetime := by
  rw [secondsLeft]
  omega

/-- What is left of a session does not wrap around if it fits 64 bits for both windows. -/
lemma Session.remaining_eq
    (hidle : session.lastAccessed.OnClock → now.OnClock →
      inWord (settings.sessionIdleTimeout - session.lastAccessed.secondsUntil now) = true)
    (hmax : session.started.OnClock → now.OnClock →
      inWord (settings.sessionMaxLifetime - session.started.secondsUntil now) = true) :
    session.remaining settings now = session.secondsLeft settings now := by
  rw [remaining, secondsLeft, windowLeft_eq hidle, windowLeft_eq hmax]

/-- Under valid settings it does not wrap around. -/
lemma Session.remaining_of_isValid (hvalid : settings.isValid = true) :
    session.remaining settings now = session.secondsLeft settings now := by
  obtain ⟨hidle, hmax⟩ := Settings.sessionWindows_bounds hvalid
  exact remaining_eq (inWord_sub_of_le_maxLifetime hidle.1 hidle.2)
    (inWord_sub_of_le_maxLifetime hmax.1 hmax.2)

/-- A session is open until a second before the expiry of the tokens that were issued in it.

**Proof sketch.** A window is open as long as its seconds have not passed in full. What remained of
it when a token was issued was cut to whole seconds, so that less than a second of it is missing in
the expiry of the token. -/
theorem Session.remaining_pos {later expiresAt : Instant} (hvalid : settings.isValid = true)
    (hexpiry : now.addSeconds? (session.remaining settings now) = some expiresAt)
    (hwindow : later.utc + nanosPerSecond ≤ expiresAt.utc) :
    0 < session.remaining settings later := by
  obtain ⟨⟨hidle, -⟩, hmax, -⟩ := Settings.sessionWindows_bounds hvalid
  have hend := Instant.utc_of_addSeconds? hexpiry
  have haccessed := Instant.utc_lt_add_secondsUntil session.lastAccessed now
  have hstarted := Instant.utc_lt_add_secondsUntil session.started now
  rw [remaining_of_isValid hvalid, secondsLeft_pos_iff, Instant.secondsUntil_lt_iff hidle,
    Instant.secondsUntil_lt_iff hmax]
  rw [remaining_of_isValid hvalid, secondsLeft] at hend
  rw [nanosPerSecond] at *
  omega

end Sessions

end TokenAuthority
