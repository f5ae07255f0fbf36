import Mathlib.Tactic.Lemma
import TokenAuthority.Proofs.GrantEffect
import TokenAuthority.Proofs.GrantSuccess

/-!
# Rotation

In every run from an empty store the chains are lines, and a token is redeemed at most once: the
row that a refresh adds is the successor of the presented token from then on, whatever copy of a row
a later request comes with.

## Main definitions

* `TokenAuthority.Event.Redeems` — a refresh that presents a token has succeeded.

## Main results

* `TokenAuthority.Run.redeems_pairwise` — a token is redeemed at most once.
* `TokenAuthority.Run.rotation` — chains are lines, and tokens can be used once.
-/

set_option autoImplicit false

namespace TokenAuthority

/-- A refresh that presents the token has succeeded. -/
def Event.Redeems (e : Event) (jti : String) : Prop :=
  ∃ request response, e.IsRefresh request response ∧ request.presented = jti

/-- A token is redeemed only while it has no successor, and it has one afterwards. -/
theorem Server.Sound.successor?_of_redeems {w : Server} {op : Operation} {jti : String}
    (h : w.Sound) (hop : w.Admits op) (hredeems : Event.Redeems ⟨op, (w.step op).1⟩ jti) :
    w.store.successor? jti = none ∧ ((w.step op).2.store.successor? jti).isSome = true := by
  obtain ⟨request, response, ⟨settings, ids, he⟩, rfl⟩ := hredeems
  obtain ⟨rfl, hok⟩ := Event.mk.inj he
  obtain ⟨plan, hrotates, -⟩ := h.of_refresh hop hok
  obtain ⟨-, -, hprevious, -⟩ := row_of_planRefresh hrotates.planned
  rw [← hrotates.presented]
  refine ⟨hrotates.last, ?_⟩
  rw [(h.step hop).linked.successor?_isSome_iff, hrotates.step_eq]
  refine ⟨?_, { plan.row with id := (w.store.revoke request.stored.jti).nextId }, ?_, hprevious⟩
  · obtain ⟨r, hr, hcopy⟩ := h.held _ hop.2
    rw [← hcopy.jti]
    exact h.linked.named r hr
  · simp [Store.withRow]

namespace Run

variable {v w : Server} {events : List Event}

/-- A token that has been redeemed has a successor. -/
lemma successor?_of_redeems (h : Run Server.Admits v events w) (hv : v.Sound) {jti : String} :
    ∀ e ∈ events, e.Redeems jti → (w.store.successor? jti).isSome = true := by
  induction h with
  | nil => simp
  | @step events u op hrun hop ih =>
    have hu := hrun.sound hv
    intro e he hredeems
    rcases List.mem_append.mp he with he | he
    · exact hu.linked.successor?_of_growsTo (hu.step hop).linked (hu.changesTo_step hop).growsTo
        (ih e he hredeems)
    · rw [List.mem_singleton.mp he] at hredeems
      exact (hu.successor?_of_redeems hop hredeems).2

/-- A token is redeemed at most once.

**Proof sketch.** Once it has been redeemed it has a successor, which it does not lose; and it is
not redeemed while it has one. -/
theorem redeems_pairwise (h : Run Server.Admits v events w) (hv : v.Sound) (jti : String) :
    events.Pairwise fun a b => a.Redeems jti → ¬ b.Redeems jti := by
  induction h with
  | nil => exact .nil
  | @step events u op hrun hop ih =>
    refine List.pairwise_append.mpr ⟨ih, List.pairwise_singleton _ _, ?_⟩
    intro a ha b hb haj hbj
    rw [List.mem_singleton.mp hb] at hbj
    have hsome := hrun.successor?_of_redeems hv a ha haj
    rw [((hrun.sound hv).successor?_of_redeems hop hbj).1] at hsome
    cases hsome

/-- After every run from an empty store, every chain is a line with at most one live row, and no
token has been redeemed twice. -/
theorem rotation {now : Instant} (h : Run Server.Admits (.start now) events w) :
    (∀ f, (∃ r ∈ w.store.rows.records, r.firstJti = f) → LinearChain f (w.store.chain f)) ∧
    (∀ a ∈ w.store.rows.records, ∀ b ∈ w.store.rows.records, a.firstJti = b.firstJti →
      a.revoked = false → b.revoked = false → a = b) ∧
    ∀ jti, events.Pairwise fun a b => a.Redeems jti → ¬ b.Redeems jti := by
  have hlinked := (h.sound (.start now)).linked
  refine ⟨fun f hf => hlinked.linear_chain hf, ?_, h.redeems_pairwise (.start now)⟩
  intro a ha b hb hab halive hblive
  exact (hlinked.linear a ha).eq_of_live (Store.mem_chain.mpr ⟨ha, rfl⟩)
    (Store.mem_chain.mpr ⟨hb, hab.symm⟩) halive hblive

end Run

/-- The refresh of the sample replaces the row of the exchange, and it is the only one that redeems
its token. -/
theorem Sample.rotation_refreshed : ∃ events,
    Run Server.Admits (.start Sample.now) events Sample.refreshed ∧
    (∃ e ∈ events, e.Redeems "R1") ∧
    (Sample.refreshed.store.chain "R1").map RefreshToken.jti = ["R1", "R2"] ∧
    LinearChain "R1" (Sample.refreshed.store.chain "R1") ∧
    events.Pairwise fun a b => a.Redeems "R1" → ¬ b.Redeems "R1" := by
  obtain ⟨events, hrun⟩ := Sample.run_exchanged
  obtain ⟨response, hrun'⟩ := Sample.run_refreshed
  have hall := hrun.trans hrun'
  obtain ⟨hlinear, -, honce⟩ := hall.rotation
  refine ⟨_, hall, ⟨_, List.mem_append_right _ (List.mem_singleton.mpr rfl), Sample.request,
    response, ⟨{}, Sample.secondIds, rfl⟩, rfl⟩, by decide, hlinear "R1" ?_, honce "R1"⟩
  exact ⟨Sample.refreshed.store.rows.records.head (by decide), List.head_mem _, by decide⟩

end TokenAuthority
