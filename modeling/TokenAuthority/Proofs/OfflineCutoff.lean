import Mathlib.Data.List.Chain
import Mathlib.Tactic.Lemma
import TokenAuthority.Proofs.GrantSuccess
import TokenAuthority.Proofs.Lifetimes
import TokenAuthority.Proofs.RowOrigin
import TokenAuthority.Proofs.ScopeWords

/-!
# The cutoff of an offline chain

The exchange that starts an offline chain fixes its cutoff, and no later refresh moves it, whatever
the settings, the client and the clock have become. A refresh may narrow the scope so that the chain
goes on with tokens of the session; it cannot turn back to offline tokens, which would make a new
cutoff, since the scope would have to grow again.

## Main definitions

* `TokenAuthority.RefreshToken.CutoffSound` — kind, scope and cutoff of a row agree.
* `TokenAuthority.RefreshToken.KeepsCutoff` — a row goes on with the cutoff of another one.
* `TokenAuthority.TokenResponse.CarriesCutoff` — a refresh token tells the cutoff of its row.
* `TokenAuthority.Server.SetsCutoff` — an exchange that fixes the cutoff of a row.
* `TokenAuthority.FixedCutoff` — the offline rows of a chain come first and share one cutoff.

## Main results

* `TokenAuthority.Run.cutoffsKept` — every row of a run goes on with the cutoff of the row that it
  replaces.
* `TokenAuthority.Run.offline_cutoff` — the cutoff is fixed once.
-/

set_option autoImplicit false

namespace TokenAuthority

/-! ## Rows -/

namespace RefreshToken

/-- A row is an offline one exactly if its scope says so, and exactly if it has a cutoff, which it
does not outlive. -/
structure CutoffSound (r : RefreshToken) : Prop where
  scope : r.type = .offline ↔ OidcScope.offlineAccess.text ∈ words r.scope
  cutoff : r.type = .offline ↔ r.maxLifetime.isSome = true
  expiry : ∀ cutoff ∈ r.maxLifetime, r.expiresAt.le cutoff = true

/-- If the row is an offline one, then so is the one before it, and they have the same cutoff. -/
def KeepsCutoff (p r : RefreshToken) : Prop :=
  r.type = .offline → p.type = .offline ∧ r.maxLifetime = p.maxLifetime

variable {p q r : RefreshToken}

/-- A row goes on with the cutoff with which the one before it goes on. -/
lemma KeepsCutoff.trans (h : p.KeepsCutoff q) (h' : q.KeepsCutoff r) : p.KeepsCutoff r := by
  intro hr
  obtain ⟨hq, hqr⟩ := h' hr
  obtain ⟨hp, hpq⟩ := h hq
  exact ⟨hp, hqr.trans hpq⟩

instance : Trans KeepsCutoff KeepsCutoff KeepsCutoff := ⟨KeepsCutoff.trans⟩

/-- Revocations do not matter for the cutoff of a row. -/
lemma MayBecome.cutoffSound_iff (h : p.MayBecome r) : r.CutoffSound ↔ p.CutoffSound := by
  rcases h with rfl | rfl
  · rfl
  · exact ⟨fun h => ⟨h.scope, h.cutoff, h.expiry⟩, fun h => ⟨h.scope, h.cutoff, h.expiry⟩⟩

/-- The number of a row does not matter for its cutoff. -/
lemma CutoffSound.withId (h : r.CutoffSound) (id : Int) :
    ({ r with id := id } : RefreshToken).CutoffSound := ⟨h.scope, h.cutoff, h.expiry⟩

/-- Revocations do not matter for the cutoffs of two rows. -/
lemma KeepsCutoff.mayBecome {p' r' : RefreshToken} (h : p.KeepsCutoff r) (hp : p.MayBecome p')
    (hr : r.MayBecome r') : p'.KeepsCutoff r' := by
  rw [KeepsCutoff, hp.type, hr.type, hp.maxLifetime, hr.maxLifetime]
  exact h

end RefreshToken

/-- In a chain of rows the offline ones come first, and they have the cutoff of the head. -/
structure FixedCutoff (rows : List RefreshToken) : Prop where
  offline_first : rows.Pairwise fun a b => a.type = .refresh → b.type = .refresh
  cutoff : ∀ head ∈ rows.head?, ∀ r ∈ rows, r.type = .offline →
    head.type = .offline ∧ r.maxLifetime = head.maxLifetime

/-- It is enough that every row goes on with the cutoff of the row before it. -/
lemma FixedCutoff.of_isChain {rows : List RefreshToken}
    (h : rows.IsChain RefreshToken.KeepsCutoff) : FixedCutoff rows := by
  have hall := List.isChain_iff_pairwise.mp h
  constructor
  case offline_first =>
    refine hall.imp fun {a b} hab ha => ?_
    cases hb : b.type with
    | refresh => rfl
    | offline => cases ha.symm.trans (hab hb).1
  case cutoff =>
    cases rows with
    | nil => simp
    | cons head rest =>
      intro _ hhead r hr hoffline
      cases hhead
      rcases List.mem_cons.mp hr with rfl | hr
      · exact ⟨hoffline, rfl⟩
      · exact List.rel_of_pairwise_cons hall hr hoffline

/-- The refresh token of the response belongs to the row. It tells the cutoff of the row in whole
seconds of the epoch, and it expires by then. -/
def TokenResponse.CarriesCutoff (response : TokenResponse) (r : RefreshToken) : Prop :=
  ∃ token, response.refreshToken = some token ∧
  ∃ claims : RefreshClaims, claims.SignedAs token ∧ claims.registered.jti = r.jti ∧
  ∃ cutoff, r.maxLifetime = some cutoff ∧ claims.offlineMaxLifetime = some cutoff.unixSeconds ∧
    claims.registered.exp ≤ cutoff.unixSeconds

/-! ## One grant -/

/-- The kind of a refresh token follows the scope. -/
lemma refreshTypeFor_eq_offline_iff {scope : ResolvedScope} :
    refreshTypeFor scope = .offline ↔ scope.has .offlineAccess = true := by
  rw [refreshTypeFor]
  split <;> simp [*]

section Plans

variable {s : Store} {settings : Settings} {now : Instant} {ids : TokenIds} {code : Code}
  {client : Client} {user : User} {scope : ResolvedScope} {previous : Option RefreshToken}
  {plan : GrantPlan}

/-- An offline token ends by the cutoff of its chain, which is the one of the row that it replaces
or, if there is none, as far from now as the client may go. -/
lemma cutoff_of_refreshLifetime {lifetime : RefreshLifetime}
    (h : refreshLifetime s settings now code client .offline previous = .ok lifetime) :
    ∃ windowEnd, now.addSeconds? (client.effectiveOfflineMaxLifetime settings) = some windowEnd ∧
      lifetime.maxLifetime = some ((previous.bind (·.maxLifetime)).getD windowEnd) ∧
      ∀ cutoff ∈ lifetime.maxLifetime, lifetime.expiresAt.le cutoff = true := by
  obtain ⟨windowEnd, hwindow, -, rfl⟩ := offlineRefreshLifetime_eq_ok_iff.mp h
  refine ⟨windowEnd, hwindow, rfl, fun cutoff hcutoff => ?_⟩
  cases hcutoff
  rw [Instant.le_iff, Instant.utc_earlier]
  exact Int.min_le_right _ _

/-- A token of a session has no cutoff. -/
lemma maxLifetime_of_refreshLifetime {lifetime : RefreshLifetime}
    (h : refreshLifetime s settings now code client .refresh previous = .ok lifetime) :
    lifetime.maxLifetime = none := by
  rw [refreshLifetime] at h
  split at h
  · cases h
  · obtain ⟨-, expiresAt, -, rfl⟩ := sessionRefreshLifetime_eq_ok_iff.mp h
    rfl

/-- The row of a plan is an offline one if the scope asks for it, and then its cutoff is that of the
row that it replaces or, if there is none, as far from now as the client may go. -/
lemma cutoff_of_planUserTokens
    (h : planUserTokens s settings now ids code client user scope previous = .ok plan) :
    (plan.row.type = .offline ↔ scope.has .offlineAccess = true) ∧
    (plan.row.type = .offline → ∃ windowEnd,
      now.addSeconds? (client.effectiveOfflineMaxLifetime settings) = some windowEnd ∧
      plan.row.maxLifetime = some ((previous.bind (·.maxLifetime)).getD windowEnd)) := by
  obtain ⟨-, htype, -, lifetime, hlifetime, -, hmax⟩ := row_of_planUserTokens h
  refine ⟨by rw [htype, refreshTypeFor_eq_offline_iff], fun hoffline => ?_⟩
  rw [hoffline] at hlifetime
  obtain ⟨windowEnd, hwindow, hcutoff, -⟩ := cutoff_of_refreshLifetime hlifetime
  exact ⟨windowEnd, hwindow, hmax.trans hcutoff⟩

/-- In the row of a plan kind, scope and cutoff agree. -/
lemma cutoffSound_of_planUserTokens {requested : String} {flow : GrantFlow}
    (hscope : ResolvedScope.resolve requested flow settings = .ok scope)
    (h : planUserTokens s settings now ids code client user scope previous = .ok plan) :
    plan.row.CutoffSound := by
  obtain ⟨-, htype, htext, lifetime, hlifetime, hexpires, hmax⟩ := row_of_planUserTokens h
  have hasks : plan.row.type = .offline ↔ OidcScope.offlineAccess.text ∈ words plan.row.scope := by
    rw [htype, htext, refreshTypeFor_eq_offline_iff, ResolvedScope.has_iff_mem_words_text hscope]
  cases hkind : plan.row.type with
  | offline =>
    rw [hkind] at hlifetime
    obtain ⟨_, -, hcutoff, hexpiry⟩ := cutoff_of_refreshLifetime hlifetime
    exact ⟨hasks, by simp [hkind, hmax, hcutoff], by rwa [hmax, hexpires]⟩
  | refresh =>
    rw [hkind] at hlifetime
    have hnone := maxLifetime_of_refreshLifetime hlifetime
    exact ⟨hasks, by simp [hkind, hmax, hnone], by simp [hmax, hnone]⟩

/-- The refresh token of a plan for an offline row tells the cutoff. -/
lemma carriesCutoff_of_planUserTokens
    (h : planUserTokens s settings now ids code client user scope previous = .ok plan)
    (hoffline : plan.row.type = .offline) : plan.response.CarriesCutoff plan.row := by
  obtain ⟨lifetime, _, key, _, hlifetime, -, -, -, ⟨-, -, token, htoken, hrefresh⟩, -, -, -, hrow⟩ :=
    planUserTokens_claims h
  have htype : refreshTypeFor scope = .offline := by
    rwa [hrow, IssuedRefresh.row_type] at hoffline
  rw [htype] at hlifetime
  obtain ⟨_, -, hcutoff, hexpiry⟩ := cutoff_of_refreshLifetime hlifetime
  rw [hrow, TokenResponse.CarriesCutoff, IssuedRefresh.row_jti, IssuedRefresh.row_maxLifetime]
  refine ⟨token, htoken, _, ⟨key, hrefresh⟩, rfl, _, hcutoff, ?_, ?_⟩
  · simp [GrantClaims.ofGrant, grantContext, ClaimsBuilder.refreshToken, htype, hcutoff]
  · exact Instant.unixSeconds_le (hexpiry _ hcutoff)

/-- The row of a refresh goes on with the cutoff of the row that it replaces.

**Proof sketch.** The scope of an offline row asks for offline access. It was asked for within the
scope of the row that is replaced, which therefore is an offline one with a cutoff. -/
lemma keepsCutoff_of_planRefresh {request : RefreshRequest} (hstored : request.stored.CutoffSound)
    (h : planRefresh s settings now ids request = .ok plan) :
    request.stored.KeepsCutoff plan.row := by
  obtain ⟨client, user, requested, scope, -, -, -, hrequested, hscope, hplan⟩ := planRefresh_ok h
  obtain ⟨hkind, hcutoff⟩ := cutoff_of_planUserTokens hplan
  intro hoffline
  have hstoredOffline : request.stored.type = .offline := by
    rw [hstored.scope]
    exact words_requestedScope_subset hrequested
      ((ResolvedScope.has_iff hscope).mp (hkind.mp hoffline))
  refine ⟨hstoredOffline, ?_⟩
  obtain ⟨cutoff, hthere⟩ := Option.isSome_iff_exists.mp (hstored.cutoff.mp hstoredOffline)
  obtain ⟨windowEnd, -, hrow⟩ := hcutoff hoffline
  rw [hrow, hthere]
  simp [hthere]

end Plans

/-! ## Runs -/

/-- In every row kind, scope and cutoff agree, and every row goes on with the cutoff of the row that
it replaces. -/
structure Store.CutoffsKept (s : Store) : Prop where
  sound : ∀ r ∈ s.rows.records, r.CutoffSound
  kept : ∀ r ∈ s.rows.records, ∀ p ∈ s.rows.records, r.previousJti = p.jti → p.KeepsCutoff r

/-- Along every chain the cutoff is fixed. -/
lemma Store.CutoffsKept.fixedCutoff {s : Store} (h : s.CutoffsKept) (hlinked : s.Linked)
    (f : String) : FixedCutoff (s.chain f) := by
  by_cases hrows : s.chain f = []
  · rw [hrows]
    exact .of_isChain .nil
  · have hlinear := hlinked.linear_chain (Store.chain_ne_nil_iff.mp hrows)
    refine .of_isChain (hlinear.linked.imp_of_mem_imp fun p r hp hr hname => ?_)
    exact h.kept r (Store.mem_chain.mp hr).1 p (Store.mem_chain.mp hp).1 hname

/-- The operation is an exchange that issues the token of the row, and the cutoff of the row is as
far from the instant of the exchange as the client may go by then. -/
def Server.SetsCutoff (u : Server) (op : Operation) (r : RefreshToken) : Prop :=
  ∃ settings ids code client, op = .exchange settings ids code ∧ ids.refresh = r.jti ∧
    u.store.client? code.clientId = some client ∧
    r.maxLifetime = u.now.addSeconds? (client.effectiveOfflineMaxLifetime settings)

namespace Server

variable {w : Server} {op : Operation} {plan : GrantPlan}

/-- In the row of a grant kind, scope and cutoff agree. -/
lemma Grants.cutoffSound (h : w.Grants op plan) : plan.row.CutoffSound := by
  obtain ⟨_, _, _, hfor⟩ := h.exists_grantsFor
  obtain ⟨_, _, _, _, _, _, -, -, -, hscope, hplan⟩ := h.exists_planUserTokens hfor
  exact cutoffSound_of_planUserTokens hscope hplan

/-- The refresh token of a grant for an offline row tells the cutoff. -/
lemma Grants.carriesCutoff (h : w.Grants op plan) (hoffline : plan.row.type = .offline) :
    plan.response.CarriesCutoff plan.row := by
  obtain ⟨_, _, _, hfor⟩ := h.exists_grantsFor
  obtain ⟨_, _, _, _, _, _, -, -, -, -, hplan⟩ := h.exists_planUserTokens hfor
  exact carriesCutoff_of_planUserTokens hplan hoffline

/-- A grant that starts an offline chain sets the cutoff of its head. -/
lemma Grants.setsCutoff (h : w.Grants op plan) (hw : w.Sound) (hop : w.Admits op)
    (hoffline : plan.row.type = .offline) (hhead : plan.row.previousJti = "") :
    w.SetsCutoff op plan.row := by
  rcases h with ⟨settings, ids, code, rfl, he⟩ | ⟨settings, ids, request, rfl, he⟩
  · obtain ⟨client, user, scope, hload, -, -, hplan⟩ := planExchange_ok he.planned
    obtain ⟨windowEnd, hwindow, hcutoff⟩ := (cutoff_of_planUserTokens hplan).2 hoffline
    exact ⟨settings, ids, code, client, rfl, (row_of_planExchange he.planned).1.symm,
      (Store.loadCode_eq_ok_iff.mp hload).1, hcutoff.trans hwindow.symm⟩
  · obtain ⟨r, hr, hcopy⟩ := hw.held _ hop.2
    rw [(row_of_planRefresh he.planned).2.2.1, ← hcopy.jti] at hhead
    exact absurd hhead (hw.linked.named r hr)

namespace Sound

/-- An admitted operation keeps the cutoffs. -/
lemma cutoffsKept_step (h : w.Sound) (hkept : w.store.CutoffsKept) (hop : w.Admits op) :
    (w.step op).2.store.CutoffsKept where
  sound := by
    intro r hr
    rcases h.row_of_grants hop hr with ⟨r₀, hr₀, hbecome⟩ | ⟨plan, id, hgrants, rfl⟩
    · exact hbecome.cutoffSound_iff.mpr (hkept.sound r₀ hr₀)
    · exact hgrants.cutoffSound.withId id
  kept := by
    intro r hr p hp hname
    rcases h.previous_cases hop hr hp hname with
      ⟨r₀, hr₀, p₀, hp₀, hr₀r, hp₀p, hname₀⟩ | ⟨_, _, request, plan, _, rfl, he, rfl, hcopy⟩
    · exact (hkept.kept r₀ hr₀ p₀ hp₀ hname₀).mayBecome hp₀p hr₀r
    · obtain ⟨p₀, hp₀, hheld⟩ := h.held _ hop.2
      have hkeeps := keepsCutoff_of_planRefresh
        (hheld.cutoffSound_iff.mp (hkept.sound p₀ hp₀)) he.planned
      exact (hkeeps.mayBecome hcopy (.refl plan.row) :)

/-- From the cutoff on no refresh with a copy of the row succeeds. -/
lemma not_tokens_of_cutoff (h : w.Sound) {r : RefreshToken} (hr : r ∈ w.store.rows.records)
    {cutoff : Instant} (hcutoff : r.maxLifetime = some cutoff) (hreached : cutoff.le w.now = true)
    {settings : Settings} {ids : TokenIds} {request : RefreshRequest}
    (hop : w.Admits (.refresh settings ids request)) (hjti : request.stored.jti = r.jti)
    (response : TokenResponse) :
    (w.step (.refresh settings ids request)).1 ≠ .ok (.tokens response) := by
  intro hok
  obtain ⟨plan, he, -⟩ := h.of_refresh hop hok
  obtain ⟨client, _, _, _, -, -, hredeemable, -⟩ := planRefresh_ok he.planned
  obtain ⟨r', hr', hcopy⟩ := h.held _ hop.2
  have hsame : r' = r := h.linked.eq_of_jti hr' hr (hcopy.jti.trans hjti)
  have hstored : request.stored.maxLifetime = some cutoff := by
    rw [← hcopy.maxLifetime, hsame, hcutoff]
  have hopen := (RefreshToken.isExpiredAt_eq_false_iff.mp
    (ensureRedeemable_eq_ok_iff.mp hredeemable).1).2 cutoff hstored
  rw [hreached] at hopen
  cases hopen

end Sound

end Server

namespace Run

variable {now : Instant} {w : Server} {events : List Event}

/-- After a run from an empty store every row goes on with the cutoff of the row that it
replaces. -/
theorem cutoffsKept (h : Run Server.Admits (.start now) events w) : w.store.CutoffsKept := by
  have hall := h.invariant (fun u => u.Sound ∧ u.store.CutoffsKept)
    ⟨.start now, by simp [Server.start, Table.empty], by simp [Server.start, Table.empty]⟩
    fun u op ⟨hu, hkept⟩ hop => ⟨hu.step hop, hu.cutoffsKept_step hkept hop⟩
  exact hall.2

/-- The cutoff of an offline chain is fixed once. In every chain the offline rows come first and
have the cutoff of the head. Kind, scope and cutoff of every row agree. Every offline row was added
by a grant of the run, with a refresh token that tells the cutoff; for a head this is an exchange,
and the cutoff is as far from its instant as the client might go at that time. And from the cutoff
on no refresh of an offline row succeeds. -/
theorem offline_cutoff (h : Run Server.Admits (.start now) events w) :
    (∀ f, FixedCutoff (w.store.chain f)) ∧
    (∀ r ∈ w.store.rows.records, r.CutoffSound) ∧
    (∀ r ∈ w.store.rows.records, r.type = .offline →
      ∃ u op plan, Origin (.start now) events w r u op plan ∧ plan.response.CarriesCutoff r ∧
        (r.isChainHead = true → u.SetsCutoff op r)) ∧
    ∀ r ∈ w.store.rows.records, ∀ cutoff, r.maxLifetime = some cutoff →
      cutoff.le w.now = true → ∀ settings ids request response,
        w.Admits (.refresh settings ids request) → request.stored.jti = r.jti →
        (w.step (.refresh settings ids request)).1 ≠ .ok (.tokens response) := by
  have hw := h.sound (.start now)
  refine ⟨h.cutoffsKept.fixedCutoff hw.linked, h.cutoffsKept.sound, ?_, ?_⟩
  · intro r hr hoffline
    obtain ⟨u, op, plan, horigin⟩ := h.exists_origin (.start now) rfl hr
    obtain ⟨⟨before, after, -, hbefore, -⟩, hop, hgrants, id, hrow⟩ := id horigin
    have hsound := hbefore.sound (.start now)
    have htype : plan.row.type = .offline := hrow.type.symm.trans hoffline
    refine ⟨u, op, plan, horigin, ?_, fun hhead => ?_⟩
    · obtain ⟨token, htoken, claims, hsigned, hjti, cutoff, hcutoff, htells, hexp⟩ :=
        hgrants.carriesCutoff htype
      exact ⟨token, htoken, claims, hsigned, hjti.trans hrow.jti.symm, cutoff,
        hrow.maxLifetime.trans hcutoff, htells, hexp⟩
    · have hfirst : plan.row.previousJti = "" := by
        rw [RefreshToken.isChainHead, Bool.and_eq_true, String.isEmpty_iff] at hhead
        exact hrow.previousJti.symm.trans hhead.1
      obtain ⟨settings, ids, code, client, hexchange, hjti, hclient, hcutoff⟩ :=
        hgrants.setsCutoff hsound hop htype hfirst
      exact ⟨settings, ids, code, client, hexchange, hjti.trans hrow.jti.symm, hclient,
        hrow.maxLifetime.trans hcutoff⟩
  · intro r hr cutoff hcutoff hreached settings ids request response hop hjti
    exact hw.not_tokens_of_cutoff hr hcutoff hreached hop hjti response

end Run

/-- In the sample the two rows share the cutoff of the exchange. At the cutoff a refresh of the
second one is admitted, and it is refused. -/
theorem Sample.offline_cutoff_refreshed : ∃ events late,
    Run Server.Admits (.start now) events late ∧ late.now = .ofUnixSeconds 1722427200 ∧
    late.store = refreshed.store ∧ FixedCutoff (late.store.chain "R1") ∧
    (late.store.chain "R1").map (fun r => (r.jti, r.type, r.maxLifetime)) =
      [("R1", .offline, some late.now), ("R2", .offline, some late.now)] ∧
    (∃ u op plan, Run.Origin (.start now) events late { secondRow with id := 2 } u op plan ∧
      plan.response.CarriesCutoff { secondRow with id := 2 }) ∧
    late.Admits (.refresh {} ⟨"A3", "I3", "R3"⟩ ⟨code, { secondRow with id := 2 }, "R2", ""⟩) ∧
    ∀ response, (late.step (.refresh {} ⟨"A3", "I3", "R3"⟩
      ⟨code, { secondRow with id := 2 }, "R2", ""⟩)).1 ≠ .ok (.tokens response) := by
  obtain ⟨events, hrun⟩ := run_exchanged
  obtain ⟨response, hrun'⟩ := run_refreshed
  have hlate := (hrun.trans hrun').snoc (.setClock (.ofUnixSeconds 1722427200)) trivial rfl
  obtain ⟨hfixed, -, horigin, hrefused⟩ := hlate.offline_cutoff
  have hrow : { secondRow with id := 2 } ∈ refreshed.store.rows.records := by decide
  have hop : (⟨refreshed.store, .ofUnixSeconds 1722427200, refreshed.copies⟩ : Server).Admits
      (.refresh {} ⟨"A3", "I3", "R3"⟩ ⟨code, { secondRow with id := 2 }, "R2", ""⟩) :=
    ⟨⟨by decide, by decide⟩, List.mem_append_left _ hrow⟩
  obtain ⟨u, op, plan, hfrom, hcarries, -⟩ := horigin _ hrow rfl
  refine ⟨_, _, hlate, rfl, rfl, hfixed "R1", by decide, ⟨u, op, plan, hfrom, hcarries⟩, hop, ?_⟩
  exact fun response => hrefused _ hrow _ rfl (by decide) _ _ _ response hop rfl

end TokenAuthority
