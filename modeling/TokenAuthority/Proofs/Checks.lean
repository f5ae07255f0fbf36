import Mathlib.Tactic.Lemma
import TokenAuthority.Proofs.GrantEffect
import TokenAuthority.Proofs.Lifetimes
import TokenAuthority.Proofs.ScopeWords

/-!
# Checks of grants

A grant makes its checks one after the other, and the first one that fails settles the kind of
error. This file says so in general, and which checks the parts of the grants make: loading the
code, reading the scope, settling the lifetime of the refresh token, and signing.

## Main definitions

* `TokenAuthority.Check` — a condition with a kind of error.
* `TokenAuthority.DecidedBy` — a computation succeeds or fails by a list of checks.
* `TokenAuthority.AuthError.isWriteFault` — an error of storing a row, which no check has.
* `TokenAuthority.Store.lifetimeChecks`, `TokenAuthority.Store.signingChecks` — the checks that all
  grants for a user make.

## Main results

* `TokenAuthority.DecidedBy.ok_iff`, `TokenAuthority.DecidedBy.refused` — when such a computation
  succeeds, and how it fails.
* `TokenAuthority.DecidedBy.bind` — the checks of two computations in a row.
* `TokenAuthority.decidedBy_planUserTokens` — the checks of a plan.
-/

set_option autoImplicit false

namespace TokenAuthority

/-! ## Lists of checks -/

/-- The error says that a row could not be stored. -/
def AuthError.isWriteFault : AuthError → Bool
  | .alreadyRotated _ | .tokenExists _ => true
  | _ => false

/-- A condition, and the kind of error where it does not hold. -/
structure Check where
  holds : Prop
  kind : AuthErrorKind

/-- The computation fails with an error of the kind, which is not about storing a row. -/
def RefusedAs {α : Type} (x : Except AuthError α) (kind : AuthErrorKind) : Prop :=
  ∃ e, x = .error e ∧ e.kind = kind ∧ e.isWriteFault = false

/-- The computation makes the checks in order. It succeeds if all of them hold, and otherwise it
fails with the kind of the first one that does not. -/
def DecidedBy {α : Type} (x : Except AuthError α) : List Check → Prop
  | [] => ∃ a, x = .ok a
  | c :: rest => (c.holds → DecidedBy x rest) ∧ (¬ c.holds → RefusedAs x c.kind)

namespace DecidedBy

variable {α β : Type} {x : Except AuthError α} {c : Check} {cs ds : List Check}

/-- What succeeds makes no checks. -/
lemma ok (a : α) : DecidedBy (.ok a) [] := ⟨a, rfl⟩

/-- A computation makes one check if it succeeds where the check holds, and fails otherwise. -/
lemma single {p : Prop} {kind : AuthErrorKind} (hok : p → ∃ a, x = .ok a)
    (hrefused : ¬ p → RefusedAs x kind) : DecidedBy x [⟨p, kind⟩] := ⟨hok, hrefused⟩

/-- A test with an error behind it is a check. -/
lemma ite {p : Prop} [Decidable p] {a : α} {e : AuthError} (he : e.isWriteFault = false) :
    DecidedBy (if p then .ok a else .error e) [⟨p, e.kind⟩] :=
  .single (fun hp => ⟨a, if_pos hp⟩) fun hp => ⟨e, if_neg hp, rfl, he⟩

/-- A check need not be made twice. -/
lemma once (h : DecidedBy x (c :: c :: cs)) : DecidedBy x (c :: cs) :=
  ⟨fun hc => (h.1 hc).1 hc, h.2⟩

/-- A computation succeeds exactly if all of its checks hold. -/
theorem ok_iff (h : DecidedBy x cs) : (∃ a, x = .ok a) ↔ ∀ c ∈ cs, c.holds := by
  induction cs with
  | nil => exact iff_of_true h (List.forall_mem_nil _)
  | cons c cs ih =>
    rw [List.forall_mem_cons]
    by_cases hc : c.holds
    · rw [ih (h.1 hc), and_iff_right hc]
    · obtain ⟨e, he, -⟩ := h.2 hc
      simp [he, hc]

/-- A computation fails with the kind of the first check that does not hold. -/
theorem refused {before after : List Check} (h : DecidedBy x (before ++ c :: after))
    (hbefore : ∀ d ∈ before, d.holds) (hc : ¬ c.holds) : RefusedAs x c.kind := by
  induction before with
  | nil => exact h.2 hc
  | cons d before ih =>
    rw [List.forall_mem_cons] at hbefore
    exact ih (h.1 hbefore.1) hbefore.2

/-- A computation that makes checks does not fail to store a row. -/
lemma not_isWriteFault (h : DecidedBy x cs) {e : AuthError} (he : x = .error e) :
    e.isWriteFault = false := by
  induction cs with
  | nil =>
    obtain ⟨a, ha⟩ := h
    cases he.symm.trans ha
  | cons c cs ih =>
    by_cases hc : c.holds
    · exact ih (h.1 hc)
    · obtain ⟨e', he', -, hfault⟩ := h.2 hc
      cases he.symm.trans he'
      exact hfault

/-- Of two computations in a row, the first one makes its checks before the second one does.

**Proof sketch.** Induction on the checks of the first one: if one of them fails, the second
computation is not reached. -/
theorem bind {f : α → Except AuthError β} (h : DecidedBy x cs)
    (hf : ∀ a, x = .ok a → DecidedBy (f a) ds) : DecidedBy (x >>= f) (cs ++ ds) := by
  induction cs with
  | nil =>
    obtain ⟨a, rfl⟩ := h
    exact hf a rfl
  | cons c cs ih =>
    refine ⟨fun hc => ih (h.1 hc), fun hc => ?_⟩
    obtain ⟨e, rfl, hkind⟩ := h.2 hc
    exact ⟨e, rfl, hkind⟩

/-- What is done to a result is no check. -/
lemma map {f : α → β} (h : DecidedBy x cs) : DecidedBy (x.map f) cs := by
  have hbind : x.map f = x >>= fun a => .ok (f a) := by cases x <;> rfl
  have := h.bind (f := fun a => .ok (f a)) fun a _ => .ok (f a)
  rwa [List.append_nil, ← hbind] at this

end DecidedBy

/-! ## Records -/

/-- The client and the user of a code are stored. -/
def Store.codeChecks (s : Store) (code : Code) : List Check :=
  [⟨(s.client? code.clientId).isSome = true, .storage⟩,
    ⟨(s.user? code.userId).isSome = true, .storage⟩]

/-- Loading a code checks that its client and its user are stored. -/
lemma decidedBy_loadCode (s : Store) (code : Code) :
    DecidedBy (s.loadCode code) (s.codeChecks code) := by
  have hclient : DecidedBy (s.codeClient code)
      [⟨(s.client? code.clientId).isSome = true, .storage⟩] := by
    rw [Store.codeClient]
    cases s.client? code.clientId with
    | some client => exact .single (fun _ => ⟨client, rfl⟩) (by simp)
    | none => exact .single (by simp) fun _ => ⟨_, rfl, rfl, rfl⟩
  have huser : DecidedBy (s.codeUser code)
      [⟨(s.user? code.userId).isSome = true, .storage⟩] := by
    rw [Store.codeUser]
    cases s.user? code.userId with
    | some user => exact .single (fun _ => ⟨user, rfl⟩) (by simp)
    | none => exact .single (by simp) fun _ => ⟨_, rfl, rfl, rfl⟩
  exact hclient.bind fun client _ => huser.bind fun user _ => .ok _

/-- The client may be used. -/
def Client.enabledCheck (client : Client) : Check := ⟨client.enabled = true, .invalidClient⟩

/-- A client may be used if it is enabled. -/
lemma decidedBy_ensureEnabled (client : Client) :
    DecidedBy (ensureEnabled client) [client.enabledCheck] := .ite rfl

/-- The row has neither expired nor, if it is an offline one, gone unused for too long. -/
def RefreshToken.redeemableChecks (row : RefreshToken) (client : Client) (settings : Settings)
    (now : Instant) : List Check :=
  [⟨now.utc < row.expiresAt.utc ∧ ∀ cutoff ∈ row.maxLifetime, now.utc < cutoff.utc,
      .invalidGrant⟩,
    ⟨row.type = .offline →
      row.issuedAt.secondsUntil now ≤ client.effectiveOfflineIdleTimeout settings,
      .invalidGrant⟩]

/-- What is checked of a row before it is redeemed. -/
lemma decidedBy_ensureRedeemable (row : RefreshToken) (client : Client) (settings : Settings)
    (now : Instant) : DecidedBy (ensureRedeemable row client settings now)
      (row.redeemableChecks client settings now) := by
  have hexpired : row.isExpiredAt now = false ↔
      now.utc < row.expiresAt.utc ∧ ∀ cutoff ∈ row.maxLifetime, now.utc < cutoff.utc := by
    simp only [RefreshToken.isExpiredAt_eq_false_iff, Instant.le_eq_false_iff]
  rw [ensureRedeemable_eq]
  refine ⟨fun h => ⟨fun hidle => ?_, fun hidle => ?_⟩, fun h => ?_⟩
  · rw [if_neg (by rw [hexpired.mpr h]; simp), if_neg fun hlong => absurd (hidle hlong.1) (by omega)]
    exact .ok ()
  · rw [if_neg (by rw [hexpired.mpr h]; simp)]
    have hlong : row.type = .offline ∧
        client.effectiveOfflineIdleTimeout settings < row.issuedAt.secondsUntil now := by
      simpa using hidle
    exact ⟨_, if_pos hlong, rfl, rfl⟩
  · have hgone : row.isExpiredAt now = true := by
      rw [← Bool.not_eq_false, hexpired]
      exact h
    exact ⟨_, if_pos hgone, rfl, rfl⟩

/-! ## Scopes -/

/-- Every word that is asked for is granted already. -/
def narrowingCheck (requested granted : String) : Check :=
  ⟨∀ w ∈ words requested, w ∈ words granted, .invalidScope⟩

/-- Every word of the scope is a token that the grant knows under the settings. -/
def vocabularyCheck (flow : GrantFlow) (settings : Settings) (scope : String) : Check :=
  ⟨∀ w ∈ words scope, (ScopeToken.ofText? flow settings w).isSome = true, .invalidScope⟩

/-- The scope that a refresh uses: the one that is asked for, or that of the row. -/
def usedScope (requested stored : String) : String :=
  if isBlankText requested then stored else requested

/-- There are no words in a blank text. -/
lemma words_of_isBlankText {s : String} (h : isBlankText s = true) : words s = [] := by
  rw [words, wordsOfChars_of_blank (List.all_eq_true.mp h)]
  rfl

/-- A refresh checks that it is not asked for more than the row has. -/
lemma decidedBy_requestedScope (requested stored : String) :
    DecidedBy (requestedScope requested stored) [narrowingCheck requested stored] := by
  rw [requestedScope]
  split
  · rename_i hblank
    refine .single (fun _ => ⟨_, rfl⟩) fun hbeyond => ?_
    simp [words_of_isBlankText hblank] at hbeyond
  · have hsubset {w : String} (hw : w ∈ words requested) :
        isSubset w stored = true ↔ w ∈ words stored := by
      simp [isSubset, words_of_isWord (isWord_of_mem_words hw)]
    split
    · rename_i w hfind
      have hw : w ∈ words requested := List.mem_of_find?_eq_some hfind
      have hbeyond : w ∉ words stored := by
        have := List.find?_some hfind
        rw [← hsubset hw]
        simpa using this
      exact .single (fun hall => absurd (hall w hw) hbeyond) fun _ => ⟨_, rfl, rfl, rfl⟩
    · rename_i hfind
      refine .single (fun _ => ⟨_, rfl⟩) fun hbeyond => absurd (fun w hw => ?_) hbeyond
      rw [← hsubset hw]
      simpa using List.find?_eq_none.mp hfind w hw

/-- The scope of a refresh. -/
lemma eq_usedScope {requested stored scope : String}
    (h : requestedScope requested stored = .ok scope) : scope = usedScope requested stored := by
  rw [requestedScope] at h
  rw [usedScope]
  split at h
  · rw [if_pos ‹_›]
    exact (Except.ok.inj h).symm
  · rw [if_neg ‹_›]
    split at h
    · cases h
    · exact (Except.ok.inj h).symm

/-- Words are classified if each of them is known. -/
lemma decidedBy_classify (flow : GrantFlow) (settings : Settings) (ws : List String) :
    DecidedBy (ResolvedScope.classify flow settings ws)
      [⟨∀ w ∈ ws, (ScopeToken.ofText? flow settings w).isSome = true, .invalidScope⟩] := by
  refine .single ResolvedScope.exists_classify_iff.mpr fun hunknown => ?_
  cases h : ResolvedScope.classify flow settings ws with
  | ok ts => exact absurd (ResolvedScope.exists_classify_iff.mp ⟨ts, h⟩) hunknown
  | error e =>
    obtain ⟨-, w, -, -, -, -, rfl⟩ := ResolvedScope.classify_eq_error_iff.mp h
    exact ⟨_, rfl, rfl, rfl⟩

/-- A scope is resolved if each of its words is known. -/
lemma decidedBy_resolve (scope : String) (flow : GrantFlow) (settings : Settings) :
    DecidedBy (ResolvedScope.resolve scope flow settings)
      [vocabularyCheck flow settings scope] :=
  (decidedBy_classify flow settings (words scope)).bind fun _ _ => .ok _

/-! ## Lifetimes -/

/-- The kind of refresh token for a scope string. -/
def refreshTypeOf (scope : String) : RefreshTokenType :=
  if OidcScope.offlineAccess.text ∈ words scope then .offline else .refresh

/-- A resolved scope asks for the kind of token that its string asks for. -/
lemma refreshTypeFor_of_resolve {s : String} {flow : GrantFlow} {settings : Settings}
    {scope : ResolvedScope} (h : ResolvedScope.resolve s flow settings = .ok scope) :
    refreshTypeFor scope = refreshTypeOf s := by
  simp only [refreshTypeFor, refreshTypeOf, ResolvedScope.has_iff h]

/-- There is time left for a new refresh token. For an offline one the window of the client is
representable and not empty, which valid settings see to, and a whole second is left until the
cutoff of the chain. For one of a session, the session is there, something is left of both of its
windows, and the end of the shorter one is representable. -/
def Store.lifetimeChecks (s : Store) (settings : Settings) (now : Instant) (code : Code)
    (client : Client) (cutoff : Option Instant) : RefreshTokenType → List Check
  | .offline =>
    [⟨(now.addSeconds? (client.effectiveOfflineMaxLifetime settings)).isSome = true,
        .configuration⟩,
      ⟨0 < client.effectiveOfflineMaxLifetime settings ∧ ∀ c ∈ cutoff, 0 < now.secondsUntil c,
        .invalidGrant⟩]
  | .refresh =>
    ⟨(s.session? code.sessionIdentifier).isSome = true, .storage⟩ ::
      (s.session? code.sessionIdentifier).elim [] fun session =>
        [⟨0 < session.remaining settings now, .invalidGrant⟩,
          ⟨(now.addSeconds? (session.remaining settings now)).isSome = true, .configuration⟩]

/-- There is an expiry if it can be represented. -/
lemma decidedBy_expiryAfter (now : Instant) (seconds : Int) :
    DecidedBy (expiryAfter now seconds)
      [⟨(now.addSeconds? seconds).isSome = true, .configuration⟩] := by
  rw [expiryAfter]
  cases now.addSeconds? seconds with
  | some t => exact .single (fun _ => ⟨t, rfl⟩) (by simp)
  | none => exact .single (by simp) fun _ => ⟨_, rfl, rfl, rfl⟩

/-- What is checked before a refresh token gets its lifetime. -/
lemma decidedBy_refreshLifetime (s : Store) (settings : Settings) (now : Instant) (code : Code)
    (client : Client) (type : RefreshTokenType) (previous : Option RefreshToken) :
    DecidedBy (refreshLifetime s settings now code client type previous)
      (s.lifetimeChecks settings now code client (previous.bind (·.maxLifetime)) type) := by
  cases type with
  | offline =>
    refine (decidedBy_expiryAfter now _).bind fun windowEnd hwindow => ?_
    rw [expiryAfter_eq_ok_iff] at hwindow
    rw [← secondsUntil_earlier_pos_iff hwindow]
    dsimp only
    refine .single (fun hleft => ?_) fun hleft => ?_
    · rw [if_neg (Int.not_le.mpr hleft)]
      exact ⟨_, rfl⟩
    · rw [if_pos (Int.not_lt.mp hleft)]
      exact ⟨_, rfl, rfl, rfl⟩
  | refresh =>
    dsimp only [refreshLifetime, Store.lifetimeChecks]
    cases hsession : s.session? code.sessionIdentifier with
    | none => exact ⟨by simp, fun _ => ⟨_, rfl, rfl, rfl⟩⟩
    | some session =>
      refine ⟨fun _ => ?_, by simp⟩
      dsimp only
      rw [sessionRefreshLifetime_eq, Option.elim_some]
      refine ⟨fun hleft => ?_, fun hleft => ?_⟩
      · rw [if_neg (Int.not_le.mpr hleft)]
        exact (decidedBy_expiryAfter now _).bind fun _ _ => .ok _
      · exact ⟨_, if_pos (Int.not_lt.mp hleft), rfl, rfl⟩

/-! ## Signing -/

/-- There is a signing key, it can be read, access tokens have an expiry, and the key can sign. -/
def Store.signingChecks (s : Store) (settings : Settings) (now : Instant) (client : Client) :
    List Check :=
  ⟨s.signingKey.isSome = true, .storage⟩ :: s.signingKey.elim [] fun pair =>
    [⟨∃ key, pair.signingKey = .ok key, .internal⟩,
      ⟨(now.wholeSecond.addSeconds? (accessTokenLifetime client settings)).isSome = true,
        .configuration⟩,
      ⟨∃ key, pair.signingKey = .ok key ∧ key.CanSign, .internal⟩]

/-- A signing key is there if it can be read. -/
lemma decidedBy_signingKey (pair : KeyPair) :
    DecidedBy (signed pair.signingKey) [⟨∃ key, pair.signingKey = .ok key, .internal⟩] := by
  refine .single (fun ⟨key, hkey⟩ => ⟨key, by rw [hkey]; rfl⟩) fun hnone => ?_
  cases hkey : pair.signingKey with
  | ok key => exact absurd ⟨key, hkey⟩ hnone
  | error e => exact ⟨.signing e, rfl, rfl, rfl⟩

/-- Claims are signed if the key can sign. -/
lemma decidedBy_sign (key : SigningKey) (claims : Json.Value) :
    DecidedBy (signed (key.sign claims)) [⟨key.CanSign, .internal⟩] := by
  refine .single (fun hcan => ?_) fun hcan => ?_
  · obtain ⟨token, htoken⟩ := hcan.sign claims
    exact ⟨token, by rw [htoken]; rfl⟩
  · rw [SigningKey.sign_of_not_canSign hcan]
    exact ⟨_, rfl, rfl, rfl⟩

/-- What is checked before tokens are signed, whatever the tokens are. -/
lemma decidedBy_signing {α : Type} (s : Store) (settings : Settings) (now : Instant)
    (client : Client) {f : SigningKey → Instant → Except AuthError α}
    (hf : ∀ key expiresAt, DecidedBy (f key expiresAt) [⟨key.CanSign, .internal⟩]) :
    DecidedBy (do
      let pair ← s.currentSigningKey
      let key ← signed pair.signingKey
      let expiresAt ← expiryAfter now.wholeSecond (accessTokenLifetime client settings)
      f key expiresAt) (s.signingChecks settings now client) := by
  rw [Store.signingChecks, Store.currentSigningKey]
  cases s.signingKey with
  | none => exact ⟨by simp, fun _ => ⟨_, rfl, rfl, rfl⟩⟩
  | some pair =>
    refine ⟨fun _ => (decidedBy_signingKey pair).bind fun key hkey => ?_, by simp⟩
    refine (decidedBy_expiryAfter now.wholeSecond _).bind fun expiresAt _ => ?_
    simpa [signed_ok hkey] using hf key expiresAt

/-- Signing an ID token, if there is one, makes no check that signing another token does not
make. -/
lemma DecidedBy.signIdToken {α : Type} {key : SigningKey} {claims : Option IdClaims}
    {f : Option String → Except AuthError α}
    (hf : ∀ token, DecidedBy (f token) [⟨key.CanSign, .internal⟩]) :
    DecidedBy (key.signIdToken claims >>= f) [⟨key.CanSign, .internal⟩] := by
  cases claims with
  | none => exact hf none
  | some claims =>
    have hsigned : DecidedBy (key.signIdToken (some claims)) [⟨key.CanSign, .internal⟩] := by
      rw [SigningKey.signIdToken, map_eq_pure_bind]
      exact (decidedBy_sign key _).bind fun _ _ => .ok _
    exact (hsigned.bind fun token _ => hf token).once

/-! ## Plans -/

/-- What is checked before a plan is made: the lifetime, and then the signing key. -/
theorem decidedBy_planUserTokens (s : Store) (settings : Settings) (now : Instant) (ids : TokenIds)
    (code : Code) (client : Client) (user : User) (scope : ResolvedScope)
    (previous : Option RefreshToken) :
    DecidedBy (planUserTokens s settings now ids code client user scope previous)
      (s.lifetimeChecks settings now code client (previous.bind (·.maxLifetime))
        (refreshTypeFor scope) ++ s.signingChecks settings now client) := by
  rw [planUserTokens_eq]
  refine (decidedBy_refreshLifetime s settings now code client _ previous).bind fun lifetime _ => ?_
  refine decidedBy_signing s settings now client fun key expiresAt => ?_
  refine .signIdToken fun idToken => ((decidedBy_sign key _).bind fun accessToken _ => ?_).once
  exact (decidedBy_sign key _).bind fun refreshToken _ => .ok _

end TokenAuthority
