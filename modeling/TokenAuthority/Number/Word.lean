/-!
# Integers of 64 bits

## Main definitions

* `inWord` — an integer fits 64 bits.
* `clampToWord` — the nearest integer that fits.
* `wrapToWord` — the integer that fits and has the same lower bits.

## Main results

* `clampToWord_of_inWord`, `wrapToWord_of_inWord` — an integer that fits is kept by both.
-/

set_option autoImplicit false

namespace TokenAuthority

/-- An integer of 64 bits. -/
def inWord (n : Int) : Bool := -Int.pow 2 63 ≤ n && n < Int.pow 2 63

/-- The nearest integer of 64 bits. -/
def clampToWord (n : Int) : Int := max (-Int.pow 2 63) (min (Int.pow 2 63 - 1) n)

/-- The integer of 64 bits that is left of an integer when its higher bits are cut off. -/
def wrapToWord (n : Int) : Int := (Int64.ofInt n).toInt

/-- An integer fits 64 bits if it lies between the least and the greatest that do. -/
theorem inWord_iff {n : Int} :
    inWord n = true ↔ -9223372036854775808 ≤ n ∧ n < 9223372036854775808 := by
  have hend : Int.pow 2 63 = 9223372036854775808 := by decide
  rw [inWord, Bool.and_eq_true, decide_eq_true_eq, decide_eq_true_eq, hend]

/-- An integer that fits is its own nearest one. -/
theorem clampToWord_of_inWord {n : Int} (h : inWord n = true) : clampToWord n = n := by
  simp only [inWord, Bool.and_eq_true, decide_eq_true_eq] at h
  rw [clampToWord]
  omega

/-- An integer that fits does not wrap around. -/
theorem wrapToWord_of_inWord {n : Int} (h : inWord n = true) : wrapToWord n = n := by
  have hends := inWord_iff.mp h
  exact Int64.toInt_ofInt_of_le (by omega) (by omega)

end TokenAuthority
