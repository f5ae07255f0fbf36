import Mathlib.Tactic.Lemma
import TokenAuthority.Number.Word
import TokenAuthority.Proofs.CalendarDays
import TokenAuthority.Proofs.Decisions
import TokenAuthority.Proofs.StoreCalls
import TokenAuthority.Proofs.Verifiability

/-!
# Lifetimes stay within bounds

Settings are validated and the lifetimes of a client are bounded, so that up to the year 9899 no
expiry lies beyond what a clock can show, and no difference of two instants is too long for an
integer of 64 bits. Lifetimes are computed here a second time with integers that are given up once
they are too long for that. Both computations come to the same, and no grant fails on arithmetic.

## Main definitions

* `TokenAuthority.word` — an integer of 64 bits, or nothing.
* `TokenAuthority.offlineLifetimeInWords`, `TokenAuthority.sessionLifetimeInWords` and their like —
  the computations with such integers.
* `TokenAuthority.SoundLifetime` — a computation stays within bounds, and so does its expiry.
* `TokenAuthority.Spares` — checks of which none fails with a kind of error.

## Main results

* `TokenAuthority.Client.effectiveLifetimes_mem` — the bounds of the lifetimes.
* `TokenAuthority.Instant.exists_addSeconds?` — the instants that a clock can still show.
* `TokenAuthority.DecidedBy.kind_ne` — a kind of error that no check of a computation has.
* `TokenAuthority.Settings.lifetimes_fit` — all of this for valid settings.
-/

set_option autoImplicit false

namespace TokenAuthority

/-! ## Integers of 64 bits -/

/-- An integer, in a computation that is given up if it does not fit 64 bits. -/
def word (n : Int) : ExceptT AuthError Option Int := .mk (if inWord n then some (.ok n) else none)

/-- The computation is not given up, and comes to the same as the other one. -/
def Computes {α : Type} (words : ExceptT AuthError Option α) (x : Except AuthError α) : Prop :=
  words.run = some x

namespace Computes

variable {α β : Type} {x : Except AuthError α} {words : ExceptT AuthError Option α}

/-- A computation without integers. -/
lemma lift (x : Except AuthError α) : Computes (liftM x) x := rfl

/-- Two computations in a row. -/
lemma bind {f : α → ExceptT AuthError Option β} {g : α → Except AuthError β} (h : Computes words x)
    (hf : ∀ a, x = .ok a → Computes (f a) (g a)) : Computes (words >>= f) (x >>= g) := by
  have hrun : (words >>= f).run = words.run >>= ExceptT.bindCont f := rfl
  rw [Computes, hrun, show words.run = some x from h]
  cases x with
  | error e => rfl
  | ok a => exact hf a rfl

/-- An integer that fits can be used. -/
lemma word_bind {n : Int} {f : Int → ExceptT AuthError Option α} (hn : inWord n = true)
    (hf : Computes (f n) x) : Computes (word n >>= f) x := by
  have hword : Computes (word n) (.ok n) := by
    rw [Computes, word, if_pos hn]
    rfl
  exact hword.bind fun a ha => Except.ok.inj ha ▸ hf

end Computes

/-- The expiry of access and ID tokens. -/
def accessExpiryInWords (client : Client) (settings : Settings) (now : Instant) :
    ExceptT AuthError Option Instant := do
  let expiresIn ← word (accessTokenLifetime client settings)
  expiryAfter now expiresIn

/-- The lifetime of an offline refresh token. -/
def offlineLifetimeInWords (client : Client) (settings : Settings) (now : Instant)
    (cutoff : Option Instant) : ExceptT AuthError Option RefreshLifetime := do
  let maxLifetime ← word (client.effectiveOfflineMaxLifetime settings)
  let windowEnd ← expiryAfter now maxLifetime
  let cutoff := cutoff.getD windowEnd
  let expiresAt := windowEnd.earlier cutoff
  let expiresIn ← word (now.secondsUntil expiresAt)
  if expiresIn ≤ 0 then throw .offlineCutoff
  pure ⟨expiresIn, expiresAt, some cutoff⟩

/-- The lifetime of a refresh token of a session. -/
def sessionLifetimeInWords (session : Session) (settings : Settings) (now : Instant) :
    ExceptT AuthError Option RefreshLifetime := do
  let unused ← word (session.lastAccessed.secondsUntil now)
  let idleLeft ← word (settings.sessionIdleTimeout - unused)
  let age ← word (session.started.secondsUntil now)
  let maxLeft ← word (settings.sessionMaxLifetime - age)
  let expiresIn := min idleLeft maxLeft
  if expiresIn ≤ 0 then throw .sessionExpired
  let expiresAt ← expiryAfter now expiresIn
  pure ⟨expiresIn, expiresAt, none⟩

/-- The test whether a row may be redeemed. -/
def ensureRedeemableInWords (row : RefreshToken) (client : Client) (settings : Settings)
    (now : Instant) : ExceptT AuthError Option Unit := do
  if row.isExpiredAt now then throw .tokenExpired
  let unused ← word (row.issuedAt.secondsUntil now)
  if row.isOffline && client.effectiveOfflineIdleTimeout settings < unused then throw .offlineIdle

/-! ## Bounds -/

namespace Client

/-- None of the lifetimes that the client has of its own is beyond the bound. -/
def Bounded (client : Client) : Prop :=
  ∀ own ∈ [client.tokenExpiration, client.offlineIdleTimeout, client.offlineMaxLifetime],
    own ≤ maxLifetime

/-- Whether the lifetimes of a client are bounded can be tested. -/
instance (client : Client) : Decidable client.Bounded :=
  inferInstanceAs (Decidable (∀ own ∈ [_, _, _], own ≤ maxLifetime))

/-- The lifetimes that a client has under settings. -/
def effectiveLifetimes (client : Client) (settings : Settings) : List Int :=
  [client.effectiveTokenExpiration settings, client.effectiveOfflineIdleTimeout settings,
    client.effectiveOfflineMaxLifetime settings]

/-- The lifetimes of a client are within the bounds that valid settings have. -/
theorem effectiveLifetimes_mem {settings : Settings} {client : Client}
    (hvalid : settings.isValid = true) (hclient : client.Bounded) :
    ∀ l ∈ client.effectiveLifetimes settings, 1 ≤ l ∧ l ≤ maxLifetime := by
  have hserver (l : String × Int) (hl : l ∈ settings.lifetimes) :=
    Settings.lifetime_bounds hvalid hl
  simp only [Settings.lifetimes, List.forall_mem_cons] at hserver
  simp only [Bounded, List.forall_mem_cons] at hclient
  simp only [effectiveLifetimes, List.forall_mem_cons, effectiveTokenExpiration,
    effectiveOfflineIdleTimeout, effectiveOfflineMaxLifetime, overrideOr]
  grind

end Client

namespace Instant

variable {s t now : Instant} {n : Int}

/-- Years begin in order. -/
lemma yearStart_mono {a b : Int} (h : a ≤ b) : yearStart a ≤ yearStart b := by
  simp only [yearStart]
  omega

/-- Up to the year 9899 a clock can show the end of every lifetime.

**Proof sketch.** The bound is a hundred years of 365 days, and the years from 9900 to 9999 have 24
days more. -/
theorem exists_addSeconds? (hclock : now.OnClock) (hyear : now.year ≤ 9899) (hn : 0 ≤ n)
    (hmax : n ≤ maxLifetime) : ∃ t, now.addSeconds? n = some t := by
  have hreading := hclock.reading
  have hday : now.day < yearStart 9900 :=
    Int.lt_of_lt_of_le (yearOfDay_spec now.day).2 (yearStart_mono (by rw [← year]; omega))
  have hroom : yearStart 9900 + 36524 = yearStart 10000 := by decide
  refine ⟨⟨now.clock + n * nanosPerSecond, now.offset⟩, if_pos ?_⟩
  simp only [isReading, Bool.and_eq_true, decide_eq_true_eq] at hreading ⊢
  simp only [endOfClock, day, nanosPerSecond, secondsPerDay, maxLifetime] at *
  omega

/-- On the clock of UTC the second of an instant is in the same year. -/
lemma onClock_wholeSecond (hclock : now.OnClock) (hutc : now.offset = 0) :
    now.wholeSecond.OnClock ∧ now.wholeSecond.year = now.year := by
  have hreading := hclock.reading
  have hclock : now.wholeSecond.clock = now.clock / nanosPerSecond * nanosPerSecond := by
    simp only [wholeSecond, ofUnixSeconds, unixSeconds, utc, hutc, Int.zero_mul, Int.sub_zero]
  constructor
  · refine ⟨?_, Nat.zero_lt_succ _⟩
    simp only [isReading, Bool.and_eq_true, decide_eq_true_eq, hclock] at hreading ⊢
    simp only [leastClock, nanosPerSecond] at *
    omega
  · rw [year, year, day, day, hclock]
    simp only [secondsPerDay, nanosPerSecond]
    congr 1
    omega

/-- An instant is not before its second. -/
lemma utc_wholeSecond_le (t : Instant) : t.wholeSecond.utc ≤ t.utc := by
  simp only [wholeSecond, ofUnixSeconds, utc, unixSeconds, nanosPerSecond]
  omega

end Instant

/-! ## Computations of lifetimes -/

/-- A computation of a lifetime stays within bounds: with integers of 64 bits it comes to the same,
it is not refused for a lifetime that is out of range, and the expiry that it gives is on a clock,
behind the second in which tokens are issued. -/
structure SoundLifetime {α : Type} (now : Instant) (expiry : α → Instant)
    (words : ExceptT AuthError Option α) (x : Except AuthError α) : Prop where
  fits : Computes words x
  inRange : ∀ e, x = .error e → e.kind ≠ .configuration
  expires : ∀ a, x = .ok a → (expiry a).OnClock ∧ now.wholeSecond.utc < (expiry a).utc

/-- A session that has been started and used in the past. -/
structure Session.IsPast (session : Session) (now : Instant) : Prop where
  started : session.started.OnClock
  lastAccessed : session.lastAccessed.OnClock
  started_le : session.started.le now = true
  lastAccessed_le : session.lastAccessed.le now = true

section Computations

variable {settings : Settings} {now : Instant} {client : Client} {session : Session}

/-- The end of a lifetime that is not empty is behind the second in which it begins. -/
lemma expires_of_addSeconds? {t : Instant} {n : Int} (hclock : now.OnClock) (hn : 0 < n)
    (h : now.addSeconds? n = some t) : t.OnClock ∧ now.wholeSecond.utc < t.utc := by
  have hend := Instant.utc_of_addSeconds? h
  have hsecond := now.utc_wholeSecond_le
  rw [nanosPerSecond] at hend
  exact ⟨.of_addSeconds? h hclock.offset, by omega⟩

/-- Something of a past session remains for no longer than a lifetime may be. -/
lemma Session.IsPast.remaining_le (h : session.IsPast now) (hvalid : settings.isValid = true) :
    session.remaining settings now ≤ maxLifetime := by
  have hidle : settings.sessionIdleTimeout ≤ maxLifetime := (Settings.lifetime_bounds hvalid
    (l := ("user_session_idle_timeout_in_seconds", _)) (by simp [Settings.lifetimes])).2
  have hunused := Instant.secondsUntil_nonneg (Instant.le_iff.mp h.lastAccessed_le)
  rw [Session.remaining_of_isValid hvalid, Session.secondsLeft]
  omega

/-- The expiry of access and ID tokens stays within bounds. -/
lemma soundLifetime_access (hvalid : settings.isValid = true) (hclock : now.OnClock)
    (hyear : now.year ≤ 9899) (hclient : client.Bounded) :
    SoundLifetime now id (accessExpiryInWords client settings now)
      (expiryAfter now (accessTokenLifetime client settings)) := by
  obtain ⟨hlow, hhigh⟩ : 1 ≤ accessTokenLifetime client settings ∧
      accessTokenLifetime client settings ≤ maxLifetime :=
    Client.effectiveLifetimes_mem hvalid hclient _ List.mem_cons_self
  obtain ⟨t, ht⟩ := Instant.exists_addSeconds? hclock hyear (by omega) hhigh
  have hexpiry := expiryAfter_eq_ok_iff.mpr ht
  refine ⟨?_, fun e he => ?_, fun a ha => ?_⟩
  · rw [maxLifetime] at hhigh
    exact .word_bind (inWord_iff.mpr (by omega)) (.lift _)
  · rw [hexpiry] at he
    cases he
  · cases hexpiry.symm.trans ha
    exact expires_of_addSeconds? hclock hlow ht

/-- The lifetime of an offline refresh token stays within bounds, whatever the cutoff is. -/
lemma soundLifetime_offline (hvalid : settings.isValid = true) (hclock : now.OnClock)
    (hyear : now.year ≤ 9899) (hclient : client.Bounded) {cutoff : Option Instant}
    (hcutoff : ∀ c ∈ cutoff, c.OnClock) :
    SoundLifetime now RefreshLifetime.expiresAt (offlineLifetimeInWords client settings now cutoff)
      (offlineRefreshLifetime client settings now cutoff) := by
  obtain ⟨hlow, hhigh⟩ : 1 ≤ client.effectiveOfflineMaxLifetime settings ∧
      client.effectiveOfflineMaxLifetime settings ≤ maxLifetime :=
    Client.effectiveLifetimes_mem hvalid hclient _ (by simp [Client.effectiveLifetimes])
  obtain ⟨windowEnd, hwindow⟩ := Instant.exists_addSeconds? hclock hyear (by omega) hhigh
  have hend : (windowEnd.earlier (cutoff.getD windowEnd)).OnClock := by
    have hwindowEnd : windowEnd.OnClock := .of_addSeconds? hwindow hclock.offset
    refine hwindowEnd.earlier ?_
    cases cutoff with
    | none => exact hwindowEnd
    | some c => exact hcutoff c rfl
  have hbounds := Instant.secondsUntil_bounds hclock hend
  refine ⟨?_, fun e he => ?_, fun lifetime hlifetime => ?_⟩
  · rw [maxLifetime] at hhigh
    refine .word_bind (inWord_iff.mpr (by omega)) ?_
    refine (Computes.lift _).bind fun t ht => ?_
    cases (expiryAfter_eq_ok_iff.mpr hwindow).symm.trans ht
    refine .word_bind (inWord_iff.mpr (by omega)) ?_
    dsimp only
    split <;> rfl
  · rw [offlineRefreshLifetime_of_windowEnd hwindow] at he
    split at he <;> cases he
    decide
  · obtain ⟨_, hsame, hleft, rfl⟩ := offlineRefreshLifetime_eq_ok_iff.mp hlifetime
    cases hwindow.symm.trans hsame
    have hsecond := now.utc_wholeSecond_le
    rw [Instant.secondsUntil_pos_iff, nanosPerSecond] at hleft
    exact ⟨hend, by dsimp only; omega⟩

/-- The lifetime of a refresh token of a past session stays within bounds. -/
lemma soundLifetime_session (hvalid : settings.isValid = true) (hclock : now.OnClock)
    (hyear : now.year ≤ 9899) (hsession : session.IsPast now) :
    SoundLifetime now RefreshLifetime.expiresAt (sessionLifetimeInWords session settings now)
      (sessionRefreshLifetime session settings now) := by
  have hwindow (l : String × Int) (hl : l ∈ settings.lifetimes) :=
    Settings.lifetime_bounds hvalid hl
  simp only [Settings.lifetimes, List.forall_mem_cons, maxLifetime] at hwindow
  have hunused := Instant.secondsUntil_bounds hsession.lastAccessed hclock
  have hage := Instant.secondsUntil_bounds hsession.started hclock
  refine ⟨?_, fun e he => ?_, fun lifetime hlifetime => ?_⟩
  · refine .word_bind (inWord_iff.mpr (by omega)) ?_
    refine .word_bind (inWord_iff.mpr (by omega)) ?_
    refine .word_bind (inWord_iff.mpr (by omega)) ?_
    refine .word_bind (inWord_iff.mpr (by omega)) ?_
    dsimp only [sessionRefreshLifetime]
    rw [Session.remaining_of_isValid hvalid, Session.secondsLeft]
    split
    · rfl
    · exact (Computes.lift _).bind fun _ _ => rfl
  · rw [sessionRefreshLifetime_eq] at he
    split at he
    · cases he
      decide
    · obtain ⟨t, ht⟩ := Instant.exists_addSeconds? hclock hyear
        (n := session.remaining settings now) (by omega) (hsession.remaining_le hvalid)
      rw [expiryAfter_eq_ok_iff.mpr ht] at he
      cases he
  · obtain ⟨hleft, t, ht, rfl⟩ := sessionRefreshLifetime_eq_ok_iff.mp hlifetime
    exact expires_of_addSeconds? hclock hleft ht

/-- The seconds for which a row has gone unused fit 64 bits. -/
lemma computes_ensureRedeemable {row : RefreshToken} (hclock : now.OnClock)
    (hissued : row.issuedAt.OnClock) :
    Computes (ensureRedeemableInWords row client settings now)
      (ensureRedeemable row client settings now) := by
  have hbounds := Instant.secondsUntil_bounds hissued hclock
  rw [ensureRedeemableInWords, ensureRedeemable]
  split
  · rfl
  · refine .word_bind (inWord_iff.mpr (by omega)) ?_
    split <;> rfl

end Computations

/-! ## Kinds of errors that no check has -/

/-- None of the checks fails with the kind of error while those before it hold. -/
inductive Spares (kind : AuthErrorKind) : List Check → Prop where
  | nil : Spares kind []
  | cons {c : Check} {cs : List Check} (hc : c.kind = kind → c.holds)
    (hcs : c.holds → Spares kind cs) : Spares kind (c :: cs)

section Spares

variable {α : Type} {kind : AuthErrorKind} {cs ds : List Check}

/-- A check of another kind in front of the checks. -/
lemma Spares.other {c : Check} (hc : c.kind ≠ kind) (h : Spares kind cs) : Spares kind (c :: cs) :=
  .cons (fun hsame => absurd hsame hc) fun _ => h

/-- Checks of two lists, one behind the other. -/
lemma Spares.append (hcs : Spares kind cs) (hds : Spares kind ds) : Spares kind (cs ++ ds) := by
  induction hcs with
  | nil => exact hds
  | cons hc _ ih => exact .cons hc ih

/-- A computation does not fail with a kind of error that its checks spare. -/
theorem DecidedBy.kind_ne {x : Except AuthError α} (h : DecidedBy x cs) (hspares : Spares kind cs)
    {e : AuthError} (he : x = .error e) : e.kind ≠ kind := by
  induction hspares with
  | nil =>
    obtain ⟨a, ha⟩ := h
    cases he.symm.trans ha
  | @cons c _ hsame _ ih =>
    by_cases hc : c.holds
    · exact ih hc (h.1 hc)
    · obtain ⟨e', he', hkind, -⟩ := h.2 hc
      cases he.symm.trans he'
      exact fun heq => hc (hsame (hkind.symm.trans heq))

end Spares

/-! ## Grants -/

/-- The client of a code is bounded, and its session has been started and used in the past. -/
structure Store.Bounded (s : Store) (now : Instant) (code : Code) : Prop where
  client : ∀ client ∈ s.client? code.clientId, client.Bounded
  session : ∀ session ∈ s.session? code.sessionIdentifier, session.IsPast now

namespace Store

section Checks

variable {s : Store} {settings : Settings} {now : Instant} {client : Client} {code : Code}
  (hvalid : settings.isValid = true) (hclock : now.OnClock) (hyear : now.year ≤ 9899)

include hvalid hclock hyear

/-- Settling the lifetime of a refresh token does not fail on arithmetic. -/
lemma spares_lifetimeChecks (hclient : client.Bounded)
    (hsession : ∀ session ∈ s.session? code.sessionIdentifier, session.IsPast now)
    (cutoff : Option Instant) (type : RefreshTokenType) :
    Spares .configuration (s.lifetimeChecks settings now code client cutoff type) := by
  cases type with
  | offline =>
    obtain ⟨hlow, hhigh⟩ : 1 ≤ client.effectiveOfflineMaxLifetime settings ∧
        client.effectiveOfflineMaxLifetime settings ≤ maxLifetime :=
      Client.effectiveLifetimes_mem hvalid hclient _ (by simp [Client.effectiveLifetimes])
    obtain ⟨t, ht⟩ := Instant.exists_addSeconds? hclock hyear (by omega) hhigh
    exact .cons (fun _ => Option.isSome_of_eq_some ht) fun _ => .other nofun .nil
  | refresh =>
    refine .other nofun ?_
    cases hstored : s.session? code.sessionIdentifier with
    | none => exact .nil
    | some session =>
      -- Where a window has closed, the end of the session is not asked for.
      refine .cons nofun fun hopen => .cons (fun _ => ?_) fun _ => .nil
      have hpast := hsession session hstored
      obtain ⟨t, ht⟩ := Instant.exists_addSeconds? hclock hyear
        (Int.le_of_lt hopen) (hpast.remaining_le hvalid)
      exact Option.isSome_of_eq_some ht

variable (hutc : now.offset = 0)

include hutc

/-- Signing does not fail on arithmetic. -/
lemma spares_signingChecks (hclient : client.Bounded) :
    Spares .configuration (s.signingChecks settings now client) := by
  obtain ⟨hsecond, hsame⟩ := Instant.onClock_wholeSecond hclock hutc
  obtain ⟨hlow, hhigh⟩ : 1 ≤ accessTokenLifetime client settings ∧
      accessTokenLifetime client settings ≤ maxLifetime :=
    Client.effectiveLifetimes_mem hvalid hclient _ List.mem_cons_self
  obtain ⟨t, ht⟩ := Instant.exists_addSeconds? hsecond (hsame ▸ hyear) (by omega) hhigh
  refine .other nofun ?_
  cases s.signingKey with
  | none => exact .nil
  | some pair =>
    have hexpiry :
        (now.wholeSecond.addSeconds? (accessTokenLifetime client settings)).isSome = true :=
      Option.isSome_of_eq_some ht
    exact .other nofun (.cons (fun _ => hexpiry) fun _ => .other nofun .nil)

/-- Issuing the tokens of a user does not fail on arithmetic. -/
lemma spares_userChecks (hclient : client.Bounded)
    (hsession : ∀ session ∈ s.session? code.sessionIdentifier, session.IsPast now)
    (cutoff : Option Instant) (type : RefreshTokenType) :
    Spares .configuration (s.lifetimeChecks settings now code client cutoff type ++
      s.signingChecks settings now client) :=
  (spares_lifetimeChecks hvalid hclock hyear hclient hsession cutoff type).append
    (spares_signingChecks hvalid hclock hyear hutc hclient)

/-- An exchange does not fail on arithmetic. -/
lemma spares_exchangeChecks (h : s.Bounded now code) :
    Spares .configuration (s.exchangeChecks settings now code) := by
  refine .append (.other nofun (.other nofun .nil)) ?_
  cases hstored : s.client? code.clientId with
  | none => exact .nil
  | some client =>
    refine .other nofun (.other nofun (.other nofun ?_))
    exact spares_userChecks hvalid hclock hyear hutc (h.client client hstored) h.session _ _

/-- A refresh of a row that may be redeemed does not fail on arithmetic. -/
lemma spares_redemptionChecks {request : RefreshRequest} (h : s.Bounded now request.code) :
    Spares .configuration (s.redemptionChecks settings now request) := by
  refine .append (.other nofun (.other nofun .nil)) ?_
  cases hstored : s.client? request.code.clientId with
  | none => exact .nil
  | some client =>
    have hrow : Spares .configuration (request.stored.redeemableChecks client settings now) :=
      .other nofun (.other nofun .nil)
    refine .other nofun (hrow.append (.other nofun (.other nofun ?_)))
    exact spares_userChecks hvalid hclock hyear hutc (h.client client hstored) h.session _ _

/-- A grant to a client in its own name does not fail on arithmetic. -/
lemma spares_clientChecks (hclient : client.Bounded) (scope : String) :
    Spares .configuration (s.clientChecks settings now client scope) :=
  .other nofun (.other nofun (.other nofun (.other nofun
    (spares_signingChecks hvalid hclock hyear hutc hclient))))

end Checks

section Writing

variable {s : Store} {e : AuthError}

/-- What a row is refused for when it is stored is no fault of the configuration. -/
lemma kind_ne_of_createRow {row : RefreshToken} (h : (s.createRow row).1 = .error e) :
    e.kind ≠ .configuration := by
  have hstorage : AuthErrorKind.storage ≠ .configuration := by decide
  dsimp only [createRow] at h
  split at h
  · cases h
    exact hstorage
  · split at h <;> cases h
    exact hstorage

/-- What a plan is refused for when it is carried out is no fault of the configuration. -/
lemma kind_ne_of_commit {plan : GrantPlan} {replaced : Option RefreshToken}
    (h : (plan.commit s replaced).1 = .error e) : e.kind ≠ .configuration := by
  rw [GrantPlan.commit] at h
  split at h
  · rename_i hcreate
    cases h
    exact kind_ne_of_createRow (congrArg Prod.fst hcreate)
  · cases h

/-- What a presented token is refused for is no fault of the configuration. -/
lemma kind_ne_of_verifyTip {stored : RefreshToken} {presented : String}
    (h : (s.verifyTip stored presented).1 = .error e) : e.kind ≠ .configuration := by
  have hkinds : ∀ kind ∈ [AuthErrorKind.invalidGrant, .refreshTokenReused, .tokenRevoked],
      kind ≠ .configuration := by decide
  have hkind : e.kind ∈ [AuthErrorKind.invalidGrant, .refreshTokenReused, .tokenRevoked] := by
    rw [verifyTip] at h
    split_ifs at h <;> cases h <;> simp [AuthError.kind]
  exact hkinds _ hkind

end Writing

section Grants

variable {s : Store} {settings : Settings} {now : Instant} {ids : TokenIds} {e : AuthError}
  (hvalid : settings.isValid = true) (hclock : now.OnClock) (hyear : now.year ≤ 9899)
  (hutc : now.offset = 0)

include hvalid hclock hyear hutc

/-- No exchange is refused for its configuration. -/
theorem kind_ne_of_exchangeCode {code : Code} (h : s.Bounded now code)
    (he : (exchangeCode s settings now ids code).1 = .error e) : e.kind ≠ .configuration := by
  rw [exchangeCode] at he
  split at he
  · rename_i hplan
    cases he
    exact (decidedBy_planExchange s settings now ids code).kind_ne
      (spares_exchangeChecks hvalid hclock hyear hutc h) hplan
  · exact kind_ne_of_commit he

/-- No refresh is refused for its configuration. -/
theorem kind_ne_of_refresh {request : RefreshRequest} (h : s.Bounded now request.code)
    (he : (refresh s settings now ids request).1 = .error e) : e.kind ≠ .configuration := by
  rw [refresh] at he
  split at he
  · rename_i htip
    cases he
    exact kind_ne_of_verifyTip (congrArg Prod.fst htip)
  · rename_i t htip
    obtain rfl := eq_of_verifyTip htip
    split at he
    · rename_i hplan
      cases he
      exact (decidedBy_planRefresh t settings now ids request).kind_ne
        (spares_redemptionChecks hvalid hclock hyear hutc h) hplan
    · exact kind_ne_of_commit he

/-- No grant to a client in its own name is refused for its configuration. -/
theorem kind_ne_of_clientCredentials {jti : String} {client : Client} {scope : String}
    (hclient : client.Bounded)
    (he : clientCredentials s settings now jti client scope = .error e) :
    e.kind ≠ .configuration :=
  (decidedBy_clientCredentials s settings now jti client scope).kind_ne
    (spares_clientChecks hvalid hclock hyear hutc hclient scope) he

end Grants

end Store

/-- Valid settings never make a grant fail on arithmetic. Take any instant up to the end of the year
9899, and clients of which no lifetime of their own is beyond the bound. The effective lifetimes are
between one second and the bound. The lifetimes of access tokens, of offline tokens with any cutoff,
and of tokens of a session that has been started and used in the past stay within bounds: no value
on the way is too long for 64 bits, and an expiry is an instant that a clock can show, behind the
second in which tokens are issued. On the clock of UTC, by which grants are made, no grant is
refused for its configuration. -/
theorem Settings.lifetimes_fit {settings : Settings} (hvalid : settings.isValid = true)
    {now : Instant} (hclock : now.OnClock) (hyear : now.year ≤ 9899) :
    (∀ client : Client, client.Bounded →
      (∀ l ∈ client.effectiveLifetimes settings, 1 ≤ l ∧ l ≤ maxLifetime) ∧
      SoundLifetime now id (accessExpiryInWords client settings now)
        (expiryAfter now (accessTokenLifetime client settings)) ∧
      (∀ cutoff : Option Instant, (∀ c ∈ cutoff, c.OnClock) →
        SoundLifetime now RefreshLifetime.expiresAt
          (offlineLifetimeInWords client settings now cutoff)
          (offlineRefreshLifetime client settings now cutoff)) ∧
      ∀ row : RefreshToken, row.issuedAt.OnClock →
        Computes (ensureRedeemableInWords row client settings now)
          (ensureRedeemable row client settings now)) ∧
    (∀ session : Session, session.IsPast now →
      SoundLifetime now RefreshLifetime.expiresAt (sessionLifetimeInWords session settings now)
        (sessionRefreshLifetime session settings now)) ∧
    (now.offset = 0 → ∀ (s : Store) (e : AuthError), e.kind = .configuration →
      (∀ ids code, s.Bounded now code → (exchangeCode s settings now ids code).1 ≠ .error e) ∧
      (∀ ids request, s.Bounded now request.code →
        (refresh s settings now ids request).1 ≠ .error e) ∧
      ∀ jti client scope, client.Bounded →
        clientCredentials s settings now jti client scope ≠ .error e) := by
  refine ⟨fun client hclient => ⟨?_, ?_, ?_, ?_⟩, fun session hsession => ?_,
    fun hutc s e hkind => ⟨?_, ?_, ?_⟩⟩
  · exact Client.effectiveLifetimes_mem hvalid hclient
  · exact soundLifetime_access hvalid hclock hyear hclient
  · exact fun cutoff hcutoff => soundLifetime_offline hvalid hclock hyear hclient hcutoff
  · exact fun row hissued => computes_ensureRedeemable hclock hissued
  · exact soundLifetime_session hvalid hclock hyear hsession
  · exact fun ids code h he => Store.kind_ne_of_exchangeCode hvalid hclock hyear hutc h he hkind
  · exact fun ids request h he => Store.kind_ne_of_refresh hvalid hclock hyear hutc h he hkind
  · exact fun jti client scope hclient he =>
      Store.kind_ne_of_clientCredentials hvalid hclock hyear hutc hclient he hkind

namespace Sample

/-- The last nanosecond of the year 9899. -/
def lastMoment : Instant := ⟨yearStart 9900 * secondsPerDay * nanosPerSecond - 1, 0⟩

/-- A client with lifetimes of its own as long as they may be. -/
def lastingClient : Client :=
  { client with tokenExpiration := maxLifetime, offlineMaxLifetime := maxLifetime }

/-- A session that was started as early as a clock can show. -/
def firstSession : Session := .start 1 "s1" 1 ⟨Instant.leastClock, 0⟩

/-- At the end of the year 9899 the longest lifetime has an expiry, the oldest session is told to be
over without a value that is too long, and the exchange of the sample is not refused for its
configuration. -/
theorem lifetimes_fit_lastMoment :
    (∃ t, expiryAfter lastMoment (accessTokenLifetime lastingClient {}) = .ok t ∧ t.OnClock) ∧
    (sessionLifetimeInWords firstSession {} lastMoment).run = some (.error .sessionExpired) ∧
    ∀ e : AuthError, e.kind = .configuration →
      (exchangeCode (store.insertClient lastingClient) {} lastMoment firstIds code).1 ≠
        .error e := by
  have hvalid : ({} : Settings).isValid = true := by decide +kernel
  have hclock : lastMoment.OnClock := ⟨by decide, by decide⟩
  have hlasting : lastingClient.Bounded := by decide
  have hpast : firstSession.IsPast lastMoment :=
    ⟨⟨by decide, by decide⟩, ⟨by decide, by decide⟩, by decide, by decide⟩
  obtain ⟨hclients, hsessions, hgrants⟩ := Settings.lifetimes_fit hvalid hclock (by decide)
  refine ⟨?_, (hsessions firstSession hpast).fits, fun e he => ?_⟩
  · have hexpiry : expiryAfter lastMoment (accessTokenLifetime lastingClient {}) = .ok _ := rfl
    exact ⟨_, hexpiry, ((hclients lastingClient hlasting).2.1.expires _ hexpiry).1⟩
  · refine (hgrants rfl _ e he).1 firstIds code ⟨fun c hc => ?_, nofun⟩
    cases hc
    exact hlasting

end Sample

end TokenAuthority
