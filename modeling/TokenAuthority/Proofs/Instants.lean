import Mathlib.Tactic.Lemma
import TokenAuthority.Time.Instant

/-!
# Laws of instants

Instants are compared by their nanoseconds in UTC. Whole seconds between two instants are cut toward
zero, so that a bound on them is a bound on the nanoseconds.

## Main results

* `TokenAuthority.Instant.utc_of_addSeconds?` — where the instant some seconds later lies.
* `TokenAuthority.Instant.utc_earlier` — the earlier of two instants.
* `TokenAuthority.Instant.secondsUntil_pos_iff`, `TokenAuthority.Instant.secondsUntil_lt_iff` —
  bounds on the whole seconds between two instants.
* `TokenAuthority.Instant.secondsUntil_bounds` — how many there are on a clock at the most.
* `TokenAuthority.Instant.unixSeconds_le` — seconds of the epoch keep the order of instants.
-/

set_option autoImplicit false

namespace TokenAuthority.Instant

variable {s t u : Instant} {n : Int}

/-- An instant is not after another one if its nanoseconds are not. -/
lemma le_iff : s.le t = true ↔ s.utc ≤ t.utc := by
  simp [le]

/-- An instant is after another one if its nanoseconds are. -/
lemma le_eq_false_iff : s.le t = false ↔ t.utc < s.utc := by
  simp [le]

/-- The instant some seconds later lies as many nanoseconds later in UTC. -/
lemma utc_of_addSeconds? (h : t.addSeconds? n = some u) : u.utc = t.utc + n * nanosPerSecond := by
  simp only [addSeconds?] at h
  split at h
  · cases h
    simp only [utc]
    omega
  · cases h

/-- The earlier of two instants lies where the lesser of the two lies. -/
lemma utc_earlier (s t : Instant) : (s.earlier t).utc = min s.utc t.utc := by
  rw [earlier]
  split <;> omega

/-- The seconds of the epoch keep the order of instants. -/
lemma unixSeconds_le (h : s.le t = true) : s.unixSeconds ≤ t.unixSeconds :=
  Int.ediv_le_ediv (by decide) (le_iff.mp h)

/-- The whole seconds until a later instant. -/
lemma secondsUntil_of_le (h : s.utc ≤ t.utc) :
    s.secondsUntil t = (t.utc - s.utc) / nanosPerSecond :=
  Int.tdiv_eq_ediv_of_nonneg (Int.sub_nonneg_of_le h)

/-- The whole seconds back from an instant are those toward it, counted backwards. -/
lemma secondsUntil_swap (s t : Instant) : s.secondsUntil t = -t.secondsUntil s := by
  rw [secondsUntil, secondsUntil, ← Int.neg_tdiv, nanosUntil, nanosUntil, Int.neg_sub]

/-- There are no whole seconds until an earlier instant. -/
lemma secondsUntil_nonpos (h : t.utc ≤ s.utc) : s.secondsUntil t ≤ 0 := by
  rw [secondsUntil_swap, secondsUntil_of_le h, nanosPerSecond]
  omega

/-- The whole seconds until a later instant are not negative. -/
lemma secondsUntil_nonneg (h : s.utc ≤ t.utc) : 0 ≤ s.secondsUntil t := by
  rw [secondsUntil_swap]
  exact Int.neg_nonneg_of_nonpos (secondsUntil_nonpos h)

/-- An instant lies less than a second behind the whole seconds that lead to it. -/
lemma utc_lt_add_secondsUntil (s t : Instant) :
    t.utc < s.utc + (s.secondsUntil t + 1) * nanosPerSecond := by
  rcases Int.le_total s.utc t.utc with h | h
  · rw [secondsUntil_of_le h, nanosPerSecond]
    omega
  · rw [secondsUntil_swap, secondsUntil_of_le h, nanosPerSecond]
    omega

/-- There are whole seconds left until an instant exactly if a second fits in between. -/
lemma secondsUntil_pos_iff : 0 < s.secondsUntil t ↔ s.utc + nanosPerSecond ≤ t.utc := by
  rcases Int.le_total s.utc t.utc with h | h
  · rw [secondsUntil_of_le h, nanosPerSecond]
    omega
  · have hnone := secondsUntil_nonpos h
    rw [nanosPerSecond]
    omega

/-- Fewer than a positive number of whole seconds have passed exactly if as many seconds have not
passed yet. -/
lemma secondsUntil_lt_iff (hn : 0 < n) :
    s.secondsUntil t < n ↔ t.utc < s.utc + n * nanosPerSecond := by
  rcases Int.le_total s.utc t.utc with h | h
  · rw [secondsUntil_of_le h, nanosPerSecond]
    omega
  · have hnone := secondsUntil_nonpos h
    rw [nanosPerSecond]
    omega

/-- The whole seconds between two instants on a clock are fewer than a trillion. -/
lemma secondsUntil_bounds (hs : s.OnClock) (ht : t.OnClock) :
    -1000000000000 < s.secondsUntil t ∧ s.secondsUntil t < 1000000000000 := by
  have hleast : -400000000000000000000 ≤ leastClock := by decide
  have hend : endOfClock ≤ 400000000000000000000 := by decide
  obtain ⟨hs, hso⟩ := hs
  obtain ⟨ht, hto⟩ := ht
  simp only [isReading, Bool.and_eq_true, decide_eq_true_eq] at hs ht
  rw [secondsUntil_lt_iff (by decide), ← Int.neg_lt_neg_iff, Int.neg_neg, ← secondsUntil_swap,
    secondsUntil_lt_iff (by decide)]
  simp only [utc, nanosPerSecond]
  omega

end TokenAuthority.Instant
