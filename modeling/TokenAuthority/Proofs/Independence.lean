import Mathlib.Tactic.Lemma
import TokenAuthority.Proofs.Atomicity
import TokenAuthority.Proofs.RowChanges

/-!
# Grants on different chains do not interfere

Two grants that work on different chains give the same answers in either order, and leave the same
rows behind, but for the numbers of the new ones. A grant reads the other records, which no grant
changes, and of the rows only whether the token that it is presented with has a successor, which no
grant on another chain changes.

## Main definitions

* `TokenAuthority.Operation.Apart` — two grants that work on different chains.
* `TokenAuthority.Operation.MayDo` — what a grant may do to the rows.
* `TokenAuthority.Store.LooksSame` — a store in which a grant finds what it finds in another one.

## Main results

* `TokenAuthority.Server.Sound.exists_does` — a grant does the same wherever it finds the same.
* `TokenAuthority.Run.independence` — two grants on different chains, in either order.
-/

set_option autoImplicit false

namespace TokenAuthority

namespace Operation

/-- The identifier of the refresh token that a grant issues. -/
def newJti? : Operation → Option String
  | exchange _ ids _ | refresh _ ids _ => some ids.refresh
  | _ => none

/-- Two grants for users that work on different chains. The chain of an exchange is a new one. -/
def Apart : Operation → Operation → Prop
  | exchange .., exchange .. | exchange .., refresh .. | refresh .., exchange .. => True
  | refresh _ _ request, refresh _ _ request' =>
    request.stored.firstJti ≠ request'.stored.firstJti
  | _, _ => False

/-- What a grant may do to the rows. -/
inductive MayDo : Operation → RowChange → Prop
  | keep (op : Operation) : MayDo op .keep
  | revokeChain (settings : Settings) (ids : TokenIds) (request : RefreshRequest) :
      MayDo (refresh settings ids request) (.revokeChain request.stored.firstJti)
  | start (settings : Settings) {ids : TokenIds} (code : Code) {row : RefreshToken}
      (jti : row.jti = ids.refresh) (firstJti : row.firstJti = ids.refresh)
      (previousJti : row.previousJti = "") : MayDo (exchange settings ids code) (.start row)
  | rotate (settings : Settings) {ids : TokenIds} {request : RefreshRequest} {row : RefreshToken}
      (jti : row.jti = ids.refresh) (firstJti : row.firstJti = request.stored.firstJti)
      (previousJti : row.previousJti = request.stored.jti) :
      MayDo (refresh settings ids request) (.rotate row)

variable {a b : Operation} {c : RowChange}

/-- Grants that work on different chains do so in either order. -/
lemma Apart.symm (h : a.Apart b) : b.Apart a := by
  cases a <;> cases b <;> first | exact h | exact Ne.symm h

/-- Grants that work on different chains are grants for users. -/
lemma Apart.isUserGrant (h : a.Apart b) : a.isUserGrant = true := by
  cases a <;> first | rfl | cases h

/-- The row that a grant adds has the identifier of its refresh token. -/
lemma MayDo.newJti? (h : a.MayDo c) : ∀ row ∈ c.added, a.newJti? = some row.jti := by
  cases h with
  | keep => simp [RowChange.added]
  | revokeChain => simp [RowChange.added]
  | start _ _ hjti => simp [RowChange.added, Operation.newJti?, hjti]
  | rotate _ hjti => simp [RowChange.added, Operation.newJti?, hjti]

/-- The row that a grant adds starts a chain of its own, or it goes on with the chain of the row that
came with the refresh. -/
lemma MayDo.added_cases (h : a.MayDo c) {row : RefreshToken} (hrow : row ∈ c.added) :
    (a.newJti? = some row.firstJti ∧ row.previousJti = "") ∨
      ∃ settings ids request, a = .refresh settings ids request ∧
        row.firstJti = request.stored.firstJti ∧ row.previousJti = request.stored.jti := by
  cases h with
  | keep => cases hrow
  | revokeChain => cases hrow
  | start settings code _ hfirst hprevious =>
    obtain rfl := List.mem_singleton.mp hrow
    exact .inl ⟨congrArg some hfirst.symm, hprevious⟩
  | rotate settings _ hfirst hprevious =>
    obtain rfl := List.mem_singleton.mp hrow
    exact .inr ⟨settings, _, _, rfl, hfirst, hprevious⟩

end Operation

/-! ## One grant -/

/-- A store in which a grant finds what it finds in another one: the same other records, its new
identifier free, and the token that it is presented with replaced or not. -/
structure Store.LooksSame (s t : Store) (op : Operation) : Prop where
  linked : t.Linked
  grows : s.GrowsTo t
  others : t = { s with rows := t.rows, successions := t.successions, nextId := t.nextId }
  free : ∀ jti ∈ op.newJti?, t.rows.has jti = false
  successor : ∀ settings ids request, op = .refresh settings ids request →
    request.stored.jti = request.presented →
    (t.successor? request.presented).isSome = (s.successor? request.presented).isSome

section Plans

variable {s t : Store} {settings : Settings} {now : Instant} {ids : TokenIds}

/-- The plan of an exchange depends on the other records alone. -/
lemma planExchange_congr {code : Code}
    (h : t = { s with rows := t.rows, successions := t.successions, nextId := t.nextId }) :
    planExchange t settings now ids code = planExchange s settings now ids code := by
  rw [h]
  rfl

/-- The plan of a refresh depends on the request and on the other records alone. -/
lemma planRefresh_congr {request : RefreshRequest}
    (h : t = { s with rows := t.rows, successions := t.successions, nextId := t.nextId }) :
    planRefresh t settings now ids request = planRefresh s settings now ids request := by
  rw [h]
  rfl

end Plans

namespace Server

/-- Wherever a grant finds what it finds now, it gives the answer and makes the change. -/
structure Does (w : Server) (op : Operation) (answer : Except AuthError Reply) (c : RowChange) :
    Prop where
  mayDo : op.MayDo c
  run_eq : ∀ t, w.store.LooksSame t op → op.run t w.now = (answer, c.apply t)

variable {w : Server} {a b op : Operation} {c d : RowChange}

/-- What an exchange does, in terms of its own answer. -/
lemma Does.of_exchange {settings : Settings} {ids : TokenIds} {code : Code}
    {answer : Except AuthError TokenResponse}
    (hmay : Operation.MayDo (.exchange settings ids code) c)
    (h : ∀ t, w.store.LooksSame t (.exchange settings ids code) →
      exchangeCode t settings w.now ids code = (answer, c.apply t)) :
    w.Does (.exchange settings ids code) (answer.map .tokens) c :=
  ⟨hmay, fun t ht => Operation.run_exchange (h t ht)⟩

/-- What a refresh does, in terms of its own answer. -/
lemma Does.of_refresh {settings : Settings} {ids : TokenIds} {request : RefreshRequest}
    {answer : Except AuthError TokenResponse}
    (hmay : Operation.MayDo (.refresh settings ids request) c)
    (h : ∀ t, w.store.LooksSame t (.refresh settings ids request) →
      refresh t settings w.now ids request = (answer, c.apply t)) :
    w.Does (.refresh settings ids request) (answer.map .tokens) c :=
  ⟨hmay, fun t ht => Operation.run_refresh (h t ht)⟩

namespace Sound

/-- An exchange does the same wherever it finds the same: it is refused, or it starts a chain. -/
lemma exists_does_exchange {settings : Settings} {ids : TokenIds} {code : Code}
    (hop : w.Admits (.exchange settings ids code)) :
    ∃ answer c, w.Does (.exchange settings ids code) answer c := by
  cases hplan : planExchange w.store settings w.now ids code with
  | error e =>
    have hrefused (t : Store) (ht : w.store.LooksSame t (.exchange settings ids code)) :
        exchangeCode t settings w.now ids code = (.error e, t) := by
      simp only [exchangeCode, planExchange_congr ht.others, hplan]
    exact ⟨_, _, .of_exchange (.keep _) hrefused⟩
  | ok plan =>
    obtain ⟨hjti, hfirst, hprevious⟩ := row_of_planExchange hplan
    have hstarts (t : Store) (ht : w.store.LooksSame t (.exchange settings ids code)) :
        exchangeCode t settings w.now ids code = (.ok plan.response, t.withRow plan.row) :=
      (ht.linked.exchangeCode_of_plan hop.1 (ht.free _ rfl)
        ((planExchange_congr ht.others).trans hplan)).2
    exact ⟨_, _, .of_exchange (.start settings code hjti hfirst hprevious) hstarts⟩

/-- A refresh does the same wherever it finds the same: it is refused, or its token has a successor
and the chain is revoked, or it replaces the row. -/
lemma exists_does_refresh (h : w.Sound) {settings : Settings} {ids : TokenIds}
    {request : RefreshRequest} (hop : w.Admits (.refresh settings ids request)) :
    ∃ answer c, w.Does (.refresh settings ids request) answer c := by
  obtain ⟨r, hr, hcopy⟩ := h.held _ hop.2
  by_cases hmatch : (request.presented.isEmpty || request.stored.jti != request.presented) = true
  · have hrefused (t : Store) (_ : w.store.LooksSame t (.refresh settings ids request)) :
        refresh t settings w.now ids request = (.error .tokenMismatch, t) := by
      simp only [refresh, Store.verifyTip, if_pos hmatch]
    exact ⟨_, _, .of_refresh (.keep _) hrefused⟩
  have hpresented : request.presented ≠ "" ∧ request.stored.jti = request.presented := by
    simpa using hmatch
  have hjti := hpresented.2
  cases hnext : w.store.successor? request.presented with
  | some next =>
    have hreused (t : Store) (ht : w.store.LooksSame t (.refresh settings ids request)) :
        refresh t settings w.now ids request = (.error (.tokenReused request.presented),
          (t.revokeChain request.stored.firstJti).2) :=
      ht.linked.refresh_of_successor settings w.now ids hjti
        (by rw [ht.successor _ _ _ rfl hjti, hnext]; rfl)
    exact ⟨_, _, .of_refresh (.revokeChain settings ids request) hreused⟩
  | none =>
    have hlast (t : Store) (ht : w.store.LooksSame t (.refresh settings ids request)) :
        t.successor? request.presented = none := by
      rw [← Option.not_isSome_iff_eq_none, ht.successor _ _ _ rfl hjti, hnext]
      simp
    cases hlive : request.stored.revoked with
    | true =>
      have hrefused (t : Store) (ht : w.store.LooksSame t (.refresh settings ids request)) :
          refresh t settings w.now ids request = (.error .tokenRevoked, t) := by
        simp [refresh, Store.verifyTip, hmatch, hlast t ht, hlive]
      exact ⟨_, _, .of_refresh (.keep _) hrefused⟩
    | false =>
      cases hplan : planRefresh w.store settings w.now ids request with
      | error e =>
        have hrefused (t : Store) (ht : w.store.LooksSame t (.refresh settings ids request)) :
            refresh t settings w.now ids request = (.error e, t) := by
          simp [refresh, Store.verifyTip, hmatch, hlast t ht, hlive, planRefresh_congr ht.others,
            hplan]
        exact ⟨_, _, .of_refresh (.keep _) hrefused⟩
      | ok plan =>
        obtain ⟨hrowJti, hfirst, hprevious, -⟩ := row_of_planRefresh hplan
        have hrotates (t : Store) (ht : w.store.LooksSame t (.refresh settings ids request)) :
            refresh t settings w.now ids request =
              (.ok plan.response, (t.revoke plan.row.previousJti).withRow plan.row) := by
          obtain ⟨r', hr', hrr'⟩ := ht.grows.exists_row hr
          rw [hprevious]
          exact (ht.linked.refresh_of_plan hop.1.1 (ht.free _ rfl) hr' (hcopy.trans hrr') hjti
            (hjti ▸ hlast t ht) hlive ((planRefresh_congr ht.others).trans hplan)).2
        exact ⟨_, _, .of_refresh (.rotate settings hrowJti hfirst hprevious) hrotates⟩

/-- A grant does the same wherever it finds the same. -/
theorem exists_does (h : w.Sound) (hop : w.Admits op) (hgrant : op.isUserGrant = true) :
    ∃ answer c, w.Does op answer c := by
  cases op with
  | exchange settings ids code => exact exists_does_exchange hop
  | refresh settings ids request => exact h.exists_does_refresh hop
  | _ => cases hgrant

/-! ## Two grants -/

/-- The identifier of a new refresh token is neither that of a row nor that of a chain. -/
lemma fresh_of_admits (h : w.Sound) (hop : w.Admits op) {jti : String}
    (hjti : op.newJti? = some jti) {r : RefreshToken} (hr : r ∈ w.store.rows.records) :
    r.jti ≠ jti ∧ r.firstJti ≠ jti := by
  have hfree : w.store.rows.has jti = false := by
    cases op with
    | exchange settings ids code => cases hjti; exact hop.2
    | refresh settings ids request => cases hjti; exact hop.1.2
    | _ => cases hjti
  rw [Table.has_eq_false_iff] at hfree
  obtain ⟨r₀, hr₀, hfirst, -⟩ := h.linked.exists_head hr
  exact ⟨hfree r hr, hfirst ▸ hfree r₀ hr₀⟩

variable {settings : Settings} {ids : TokenIds} {request : RefreshRequest}

/-- A grant on another chain than a refresh adds no row to the chain of that one. -/
lemma firstJti_ne (h : w.Sound) (ha : w.Admits a) (hb : w.Admits (.refresh settings ids request))
    (hapart : a.Apart (.refresh settings ids request)) (hac : a.MayDo c) :
    ∀ row ∈ c.added, row.firstJti ≠ request.stored.firstJti := by
  intro row hrow
  obtain ⟨r, hr, hcopy⟩ := h.held _ hb.2
  rcases hac.added_cases hrow with ⟨hnew, -⟩ | ⟨_, _, _, rfl, hfirst, -⟩
  · rw [← hcopy.firstJti]
    exact (h.fresh_of_admits ha hnew hr).2.symm
  · rw [hfirst]
    exact hapart

/-- Two refreshes on different chains come with different rows. -/
lemma stored_jti_ne (h : w.Sound) {settings' : Settings} {ids' : TokenIds}
    {request' : RefreshRequest} (ha : w.Admits (.refresh settings ids request))
    (hb : w.Admits (.refresh settings' ids' request'))
    (hapart : request.stored.firstJti ≠ request'.stored.firstJti) :
    request.stored.jti ≠ request'.stored.jti := by
  obtain ⟨r, hr, hcopy⟩ := h.held _ ha.2
  obtain ⟨r', hr', hcopy'⟩ := h.held _ hb.2
  intro hjti
  have hsame : r = r' := h.linked.eq_of_jti hr hr' (by rw [hcopy.jti, hjti, hcopy'.jti])
  exact hapart (by rw [← hcopy.firstJti, hsame, hcopy'.firstJti])

/-- A refresh comes with a row that has a token. -/
lemma stored_jti_ne_empty (h : w.Sound) (hop : w.Admits (.refresh settings ids request)) :
    request.stored.jti ≠ "" := by
  obtain ⟨r, hr, hcopy⟩ := h.held _ hop.2
  rw [← hcopy.jti]
  exact h.linked.named r hr

/-- No grant revokes the row that a grant on another chain adds. -/
lemma not_revokes (h : w.Sound) (ha : w.Admits a) (hb : w.Admits b) (hapart : a.Apart b)
    (hac : a.MayDo c) (hbd : b.MayDo d) : ∀ row ∈ c.added, d.revokes row = false := by
  intro row hrow
  cases hbd with
  | keep => rfl
  | start => rfl
  | revokeChain settings ids request =>
    simpa [RowChange.revokes] using h.firstJti_ne ha hb hapart hac row hrow
  | rotate _ hjti hfirst hprevious =>
    obtain ⟨r, hr, hcopy⟩ := h.held _ hb.2
    have hne := (h.fresh_of_admits ha (hac.newJti? row hrow) hr).1.symm
    simpa [RowChange.revokes, hprevious, ← hcopy.jti] using hne

/-- What two grants on different chains do to the rows is independent. -/
theorem independent (h : w.Sound) (ha : w.Admits a) (hb : w.Admits b) (hapart : a.Apart b)
    (hids : a.newJti? ≠ b.newJti?) (hac : a.MayDo c) (hbd : b.MayDo d) : c.Independent d where
  left := h.not_revokes ha hb hapart hac hbd
  right := h.not_revokes hb ha hapart.symm hbd hac
  chains row hrow row' hrow' := by
    rcases hbd.added_cases hrow' with ⟨hnew', -⟩ | ⟨_, _, _, rfl, hfirst', -⟩
    · rcases hac.added_cases hrow with ⟨hnew, -⟩ | ⟨_, _, _, rfl, hfirst, -⟩
      · exact fun heq => hids (hnew.trans (heq ▸ hnew'.symm))
      · rw [hfirst]
        exact (h.firstJti_ne hb ha hapart.symm hbd row' hrow').symm
    · rw [hfirst']
      exact h.firstJti_ne ha hb hapart hac row hrow
  previous row hrow row' hrow' := by
    rcases hac.added_cases hrow with ⟨-, hempty⟩ | ⟨_, _, _, rfl, -, hprevious⟩
    · exact .inl hempty
    · right
      rw [hprevious]
      rcases hbd.added_cases hrow' with ⟨-, hempty'⟩ | ⟨_, _, _, rfl, -, hprevious'⟩
      · rw [hempty']
        exact h.stored_jti_ne_empty ha
      · rw [hprevious']
        exact h.stored_jti_ne ha hb hapart

/-- Wherever a grant finds the same, there it does what it does here. -/
lemma looksSame_refl (h : w.Sound) (hop : w.Admits op) : w.store.LooksSame w.store op where
  linked := h.linked
  grows := .refl _
  others := rfl
  free jti hjti := by
    rw [Table.has_eq_false_iff]
    exact fun r hr => (h.fresh_of_admits hop hjti hr).1
  successor _ _ _ _ _ := rfl

/-- A grant finds the same before and after a grant on another chain. -/
theorem looksSame_apply (h : w.Sound) (ha : w.Admits a) (hb : w.Admits b) (hapart : a.Apart b)
    (hids : a.newJti? ≠ b.newJti?) (hac : a.MayDo c) (hlinked : (c.apply w.store).Linked) :
    w.store.LooksSame (c.apply w.store) b where
  linked := hlinked
  grows := ⟨_, _, onlyRevokes_revokeWhere _, c.rows_apply w.store⟩
  others := c.apply_eq w.store
  free jti hjti := by
    rw [Table.has_eq_false_iff, c.rows_apply]
    intro r hr
    rcases List.mem_append.mp hr with hr | hr
    · obtain ⟨r₀, hr₀, rfl⟩ := List.mem_map.mp hr
      rw [(onlyRevokes_revokeWhere _ r₀).jti]
      exact (h.fresh_of_admits hb hjti hr₀).1
    · obtain ⟨row, hrow, rfl⟩ := List.mem_map.mp hr
      rintro rfl
      exact hids ((hac.newJti? row hrow).trans hjti.symm)
  successor settings ids request hop hpresented := by
    subst hop
    have hnone : c.noted request.presented = none := by
      cases hnoted : c.noted request.presented with
      | none => rfl
      | some x =>
        obtain ⟨row, hrow, hne, hname⟩ := RowChange.previous_of_noted hnoted
        rcases hac.added_cases hrow with ⟨-, hempty⟩ | ⟨_, _, _, rfl, -, hprevious⟩
        · exact absurd hempty hne
        · rw [hprevious, ← hpresented] at hname
          exact absurd hname (h.stored_jti_ne ha hb hapart)
    rw [hlinked.toIndexed.successor?_isSome_eq, h.linked.toIndexed.successor?_isSome_eq, Table.has,
      c.find?_successions_apply, hnone]
    rfl

variable {answer answer' : Except AuthError Reply}

/-- The step of a grant that has been seen to do something. -/
lemma step_of_does (h : w.Sound) (hop : w.Admits op) (hgrant : op.isUserGrant = true)
    (hdoes : w.Does op answer c) : w.step op = (answer, ⟨c.apply w.store, w.now, w.copies⟩) := by
  have hstep := step_of_run (hdoes.run_eq _ (h.looksSame_refl hop))
  cases op <;> first | exact hstep | cases hgrant

/-- Of two grants on different chains the second one gives the answer that it would give alone, and
makes the change that it would make.

**Proof sketch.** It finds the same after the first one as before. -/
theorem step_step (h : w.Sound) (ha : w.Admits a) (hb : w.Admits b) (hapart : a.Apart b)
    (hids : a.newJti? ≠ b.newJti?) (hac : w.Does a answer c) (hbd : w.Does b answer' d) :
    ((w.step a).2.step b).1 = answer' ∧
      ((w.step a).2.step b).2.store = d.apply (c.apply w.store) ∧
      (d.apply (c.apply w.store)).Linked := by
  have hsound := h.step ha
  rw [h.step_of_does ha hapart.isUserGrant hac] at hsound ⊢
  have hsame := h.looksSame_apply ha hb hapart hids hac.mayDo hsound.linked
  have hadmits : (⟨c.apply w.store, w.now, w.copies⟩ : Server).Admits b := by
    cases b with
    | exchange settings ids code => exact ⟨hb.1, hsame.free _ rfl⟩
    | refresh settings ids request =>
      exact ⟨⟨hb.1.1, hsame.free _ rfl⟩, List.mem_append_right _ hb.2⟩
    | _ => trivial
  have hnext := step_of_run (w := ⟨c.apply w.store, w.now, w.copies⟩) (hbd.run_eq _ hsame)
  have hlinked := (hsound.step hadmits).linked
  rw [hnext] at hlinked ⊢
  exact ⟨rfl, rfl, hlinked⟩

end Sound

end Server

namespace Run

variable {now : Instant} {w : Server} {events : List Event}

/-- Grants on different chains do not interfere. After every run from an empty store, two grants for
users that work on different chains, each with a fresh identifier of its own for its refresh token,
give the same answers in either order, and leave stores behind that differ at most in the numbers of
the new rows. -/
theorem independence (h : Run Server.Admits (.start now) events w) {a b : Operation}
    (ha : w.Admits a) (hb : w.Admits b) (hapart : a.Apart b) (hids : a.newJti? ≠ b.newJti?) :
    ((w.step a).2.step b).1 = (w.step b).1 ∧ ((w.step b).2.step a).1 = (w.step a).1 ∧
      w.store.SameUpToNewIds ((w.step a).2.step b).2.store ((w.step b).2.step a).2.store := by
  have hw := h.sound (.start now)
  obtain ⟨answer, c, hac⟩ := hw.exists_does ha hapart.isUserGrant
  obtain ⟨answer', d, hbd⟩ := hw.exists_does hb hapart.symm.isUserGrant
  obtain ⟨hanswer', hstore, hlinked⟩ := hw.step_step ha hb hapart hids hac hbd
  obtain ⟨hanswer, hstore', -⟩ := hw.step_step hb ha hapart.symm hids.symm hbd hac
  rw [hanswer, hanswer', hstore, hstore', hw.step_of_does ha hapart.isUserGrant hac,
    hw.step_of_does hb hapart.symm.isUserGrant hbd]
  exact ⟨rfl, rfl, RowChange.comm
    (hw.independent ha hb hapart hids hac.mayDo hbd.mayDo) hlinked.toIndexed⟩

end Run

/-- In the sample the refresh of `R1` and a second exchange do not interfere. -/
theorem Sample.independence_exchanged : ∃ events,
    Run Server.Admits (.start now) events exchanged ∧
    let a := Operation.refresh {} secondIds request
    let b := Operation.exchange {} ⟨"A3", "I3", "R3"⟩ code
    ((exchanged.step a).2.step b).1 = (exchanged.step b).1 ∧
      ((exchanged.step b).2.step a).1 = (exchanged.step a).1 ∧
      exchanged.store.SameUpToNewIds ((exchanged.step a).2.step b).2.store
        ((exchanged.step b).2.step a).2.store := by
  obtain ⟨events, hrun⟩ := run_exchanged
  have hexchange : exchanged.Admits (.exchange {} ⟨"A3", "I3", "R3"⟩ code) := ⟨by decide, rfl⟩
  exact ⟨events, hrun, hrun.independence admits_refresh hexchange trivial (by decide)⟩

end TokenAuthority
