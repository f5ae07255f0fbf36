import Mathlib.Algebra.Group.Nat.Defs
import Mathlib.Tactic.Lemma
import TokenAuthority.Proofs.JsonTexts
import TokenAuthority.Record.Uuid

/-!
# Digits are read back

Numbers that are written with a fixed number of digits, decimal or hexadecimal, are read back.

## Main results

* `TokenAuthority.takeDigits?_fixedDigits` — decimal digits at the start of a text.
* `TokenAuthority.Uuid.ofText?_text` — the hyphenated form of an identifier.
-/

set_option autoImplicit false

namespace TokenAuthority

/-! ## Decimal digits -/

/-- The character of a decimal digit is one, and it stands for the digit. -/
lemma isDigit_ofNat {d : Nat} (h : d < 10) :
    (Char.ofNat (0x30 + d)).isDigit = true ∧ (Char.ofNat (0x30 + d)).toNat - 0x30 = d := by
  revert d
  decide

/-- There are as many digits as were asked for. -/
@[simp] lemma length_fixedDigits (width n : Nat) : (fixedDigits width n).length = width := by
  induction width generalizing n with
  | zero => rfl
  | succ width ih => simp [fixedDigits, ih]

/-- All of them are digits. -/
lemma isDigit_of_mem_fixedDigits {width n : Nat} {c : Char} (h : c ∈ fixedDigits width n) :
    c.isDigit = true := by
  induction width generalizing n with
  | zero => cases h
  | succ width ih =>
    rcases List.mem_append.mp h with h | h
    · exact ih h
    · rw [List.mem_singleton.mp h]
      exact (isDigit_ofNat (Nat.mod_lt n (by decide))).1

/-- Digits are read one behind the other. -/
lemma digits?_append (xs ys : List Char) (n : Nat) :
    digits? (xs ++ ys) n = (digits? xs n).bind (digits? ys) := by
  induction xs generalizing n with
  | nil => rfl
  | cons c xs ih =>
    rw [List.cons_append, digits?, digits?]
    split
    · exact ih _
    · rfl

/-- The digits of a number are read onto another one. -/
lemma digits?_fixedDigits (width n start : Nat) :
    digits? (fixedDigits width n) start = some (start * 10 ^ width + n % 10 ^ width) := by
  induction width generalizing n with
  | zero => simp [fixedDigits, digits?, Nat.mod_one]
  | succ width ih =>
    obtain ⟨hdigit, hvalue⟩ := isDigit_ofNat (Nat.mod_lt n (by decide : 10 > 0))
    rw [fixedDigits, digits?_append, ih, Option.bind_some, digits?, if_pos hdigit, hvalue, digits?,
      Nat.pow_succ, Nat.mul_comm (10 ^ width) 10, Nat.mod_mul]
    congr 1
    rw [Nat.add_mul, Nat.mul_assoc, Nat.mul_comm 10]
    omega

/-- A number of so many digits is read from the start of a text. -/
theorem takeDigits?_fixedDigits {width n : Nat} (h : n < 10 ^ width) (rest : List Char) :
    takeDigits? width (fixedDigits width n ++ rest) = some (n, rest) := by
  have hlong : ¬ (fixedDigits width n ++ rest).length < width := by simp
  rw [takeDigits?, if_neg hlong, List.take_left' (length_fixedDigits width n),
    List.drop_left' (length_fixedDigits width n), digits?_fixedDigits, Nat.mod_eq_of_lt h]
  simp

/-! ## Hexadecimal digits -/

/-- There are as many digits as were asked for. -/
@[simp] lemma length_fixedHex (width n : Nat) : (fixedHex width n).length = width := by
  induction width generalizing n with
  | zero => rfl
  | succ width ih => simp [fixedHex, ih]

/-- Digits are read one behind the other. -/
lemma hex?_append (xs ys : List Char) (n : Nat) :
    hex? (xs ++ ys) n = (hex? xs n).bind (hex? ys) := by
  induction xs generalizing n with
  | nil => rfl
  | cons c xs ih =>
    rw [List.cons_append, hex?, hex?]
    split
    · exact ih _
    · rfl

/-- The digits of a number are read onto another one. -/
lemma hex?_fixedHex (width n start : Nat) :
    hex? (fixedHex width n) start = some (start * 16 ^ width + n % 16 ^ width) := by
  induction width generalizing n with
  | zero => simp [fixedHex, hex?, Nat.mod_one]
  | succ width ih =>
    have hvalue := Json.Doc.hexValue?_hexDigit (Nat.mod_lt n (by decide : 16 > 0))
    rw [fixedHex, hex?_append, ih, Option.bind_some, hex?, hvalue]
    dsimp only
    rw [hex?, Nat.pow_succ, Nat.mul_comm (16 ^ width) 16, Nat.mod_mul]
    congr 1
    rw [Nat.add_mul, Nat.mul_assoc, Nat.mul_comm 16]
    omega

namespace Uuid

/-- The digits of an identifier are read back. -/
lemma ofDigits?_fixedHex (u : Uuid) : ofDigits? (fixedHex 32 u.value) = some u := by
  have hbound : u.value < 16 ^ 32 := u.bound
  have hvalue : hex? (fixedHex 32 u.value) 0 = some u.value := by
    rw [hex?_fixedHex, Nat.mod_eq_of_lt hbound, Nat.zero_mul, Nat.zero_add]
  rw [ofDigits?, hvalue]
  exact dif_pos ⟨u.bound, length_fixedHex 32 u.value⟩

/-- The groups between hyphens are put together. -/
lemma ofHyphenated?_groups {as bs cs ds es : List Char} (ha : as.length = 8) (hb : bs.length = 4)
    (hc : cs.length = 4) (hd : ds.length = 4) (he : es.length = 12) :
    ofHyphenated? (as ++ '-' :: (bs ++ '-' :: (cs ++ '-' :: (ds ++ '-' :: es)))) =
      ofDigits? (as ++ bs ++ cs ++ ds ++ es) := by
  have hdrop {xs : List Char} {n k : Nat} (hn : xs.length = n) (hk : n ≤ k) : xs.drop k = [] :=
    List.drop_eq_nil_of_le (hn ▸ hk)
  simp [ofHyphenated?, List.drop_append, List.getElem?_append, ha, hb, hc, hd, he,
    hdrop ha, hdrop hb, hdrop hc, hdrop hd]

/-- The hyphenated form of an identifier is read back. -/
theorem ofText?_text (u : Uuid) : ofText? u.text = some u := by
  have hlength : u.chars.length = 36 := by simp [chars]
  have hdigits := u.ofDigits?_fixedHex
  have hds := length_fixedHex 32 u.value
  rw [text, ofText?, String.toList_ofList, hlength, if_neg (by decide), if_pos rfl, chars]
  generalize fixedHex 32 u.value = ds at hdigits hds
  rw [ofHyphenated?_groups (by simp [hds]) (by simp [hds]) (by simp [hds]) (by simp [hds])
    (by simp [hds])]
  have hjoin : ds.take 8 ++ (ds.drop 8).take 4 ++ (ds.drop 12).take 4 ++ (ds.drop 16).take 4 ++
      ds.drop 20 = ds := by
    rw [← List.take_add, ← List.take_add, ← List.take_add]
    exact List.take_append_drop 20 ds
  rw [hjoin, hdigits]

end Uuid

end TokenAuthority
