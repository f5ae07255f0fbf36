import Mathlib.Data.List.TakeWhile
import Mathlib.Data.Option.Basic
import Mathlib.Tactic.Lemma
import TokenAuthority.Proofs.CalendarDays
import TokenAuthority.Proofs.DigitTexts
import TokenAuthority.Time.Rfc3339

/-!
# Instants are read back

An instant that has an RFC 3339 text is read back from it, to the nanosecond and with its offset.

## Main definitions

* `TokenAuthority.Instant.HasText` — the year has four digits, and the offset is one of hours and
  minutes.

## Main results

* `TokenAuthority.Instant.takeFraction?_fractionChars`,
  `TokenAuthority.Instant.offset?_offsetChars` — the fraction of a second and the offset are read
  back.
* `TokenAuthority.Instant.ofRfc3339?_text` — an instant is read back.
-/

set_option autoImplicit false

namespace TokenAuthority.Instant

/-- The year has four digits, and the offset is one of hours and minutes. -/
def HasText (t : Instant) : Prop :=
  t.isWritable = true ∧ t.offset % 60 = 0 ∧ -secondsPerDay < t.offset ∧ t.offset < secondsPerDay

instance (t : Instant) : Decidable t.HasText := inferInstanceAs (Decidable (_ ∧ _))

/-! ## Fractions -/

/-- Where no digits are left, nothing is added. -/
lemma fractionNanos_nil (places : Nat) : fractionNanos places [] = 0 := by
  cases places <;> rfl

/-- Zeros add nothing. -/
lemma fractionNanos_replicate (places zeros : Nat) :
    fractionNanos places (List.replicate zeros '0') = 0 := by
  induction zeros generalizing places with
  | zero => exact fractionNanos_nil places
  | succ zeros ih =>
    cases places with
    | zero => rfl
    | succ places =>
      rw [List.replicate_succ, fractionNanos, ih]
      exact Nat.zero_mul _

/-- Zeros at the end add nothing. -/
lemma fractionNanos_append_zeros (places : Nat) (ds : List Char) (zeros : Nat) :
    fractionNanos places (ds ++ List.replicate zeros '0') = fractionNanos places ds := by
  induction ds generalizing places with
  | nil => rw [List.nil_append, fractionNanos_replicate, fractionNanos_nil]
  | cons d ds ih =>
    cases places with
    | zero => rfl
    | succ places => rw [List.cons_append, fractionNanos, fractionNanos, ih]

/-- The places of a fraction count like the digits of a number. -/
lemma digits?_eq_fractionNanos {ds : List Char} (h : ∀ c ∈ ds, c.isDigit = true) (start : Nat) :
    digits? ds start = some (start * 10 ^ ds.length + fractionNanos ds.length ds) := by
  induction ds generalizing start with
  | nil => simp [digits?, fractionNanos]
  | cons d ds ih =>
    obtain ⟨hd, hds⟩ := List.forall_mem_cons.mp h
    rw [digits?, if_pos hd, ih hds, List.length_cons, fractionNanos, Nat.pow_succ, Nat.add_mul]
    congr 1
    change _ = _ + ((d.toNat - 0x30) * 10 ^ ds.length + _)
    rw [Nat.mul_assoc, Nat.mul_comm 10]
    omega

/-- Nanoseconds are read back from nine digits. -/
lemma fractionNanos_fixedDigits {nanos : Nat} (h : nanos < 10 ^ 9) :
    fractionNanos 9 (fixedDigits 9 nanos) = nanos := by
  have hdigits : ∀ c ∈ fixedDigits 9 nanos, c.isDigit = true :=
    fun c hc => isDigit_of_mem_fixedDigits hc
  have hread := digits?_eq_fractionNanos hdigits 0
  rw [digits?_fixedDigits, length_fixedDigits, Nat.mod_eq_of_lt h] at hread
  simpa using hread.symm

/-- What is taken off a list of digits are zeros. -/
lemma exists_append_zeros (ds : List Char) :
    ∃ zeros, ds = dropLastZeros ds ++ List.replicate zeros '0' := by
  refine ⟨(ds.reverse.takeWhile (· == '0')).length, ?_⟩
  have hzeros : ds.reverse.takeWhile (· == '0') =
      List.replicate (ds.reverse.takeWhile (· == '0')).length '0' :=
    List.eq_replicate_iff.mpr ⟨rfl, fun c hc => by simpa using List.mem_takeWhile_imp hc⟩
  rw [dropLastZeros, ← List.reverse_replicate, ← hzeros, ← List.reverse_append,
    List.takeWhile_append_dropWhile, List.reverse_reverse]

/-- The fraction of a second is read back where neither a digit nor a point follows.

**Proof sketch.** The zeros that were taken off the nine digits add nothing, and the digits that are
left are read up to what follows. They are not empty, since a fraction of zeros only is not
written. -/
theorem takeFraction?_fractionChars {nanos : Nat} (h : nanos < 10 ^ 9) {rest : List Char}
    (hrest : ∀ c ∈ rest.head?, c.isDigit = false ∧ c ≠ '.') :
    takeFraction? (fractionChars nanos ++ rest) = some (nanos, rest) := by
  rw [fractionChars]
  split
  case isTrue hzero =>
    rw [List.nil_append, hzero]
    cases rest with
    | nil => rfl
    | cons c rest => simp [takeFraction?, (hrest c rfl).2]
  case isFalse hnonzero =>
    obtain ⟨zeros, hsplit⟩ := exists_append_zeros (fixedDigits 9 nanos)
    generalize hds : dropLastZeros (fixedDigits 9 nanos) = ds at hsplit
    have hnanos : fractionNanos 9 ds = nanos := by
      rw [← fractionNanos_append_zeros 9 ds zeros, ← hsplit, fractionNanos_fixedDigits h]
    have hdigits : ∀ c ∈ ds, c.isDigit = true := fun c hc =>
      isDigit_of_mem_fixedDigits (hsplit ▸ List.mem_append_left _ hc)
    have hempty : ds.isEmpty = false := by
      cases ds with
      | nil => exact absurd ((fractionNanos_nil 9).symm.trans hnanos).symm hnonzero
      | cons d ds => rfl
    obtain ⟨htake, hdrop⟩ := takeWhile_append_of_stop hdigits fun c hc => (hrest c hc).1
    rw [List.cons_append, takeFraction?, htake, hdrop]
    simp only [hempty, hnanos]
    rfl

/-! ## Offsets -/

/-- No digit and no point is at the start of an offset. -/
lemma head?_offsetChars (offset : Int) :
    ∀ c ∈ (offsetChars offset).head?, c.isDigit = false ∧ c ≠ '.' := by
  intro c hc
  rw [offsetChars] at hc
  split_ifs at hc <;> cases hc <;> decide

/-- Hours and minutes behind a sign are read. -/
lemma offset?_signed {sign : Char} (hsign : sign = '+' ∨ sign = '-') {hours minutes : Nat}
    (hhours : hours ≤ 23) (hminutes : minutes ≤ 59) :
    offset? (sign :: (fixedDigits 2 hours ++ ':' :: fixedDigits 2 minutes)) =
      some (if sign = '-' then -(((hours * 60 + minutes) * 60 : Nat) : Int)
        else (((hours * 60 + minutes) * 60 : Nat) : Int)) := by
  have hfirst := takeDigits?_fixedDigits (show hours < 10 ^ 2 by omega)
    (':' :: fixedDigits 2 minutes)
  have hsecond := takeDigits?_fixedDigits (show minutes < 10 ^ 2 by omega) []
  rw [List.append_nil] at hsecond
  rw [offset?, hfirst]
  · simp [takeChar?, hsecond, hsign, hhours, hminutes, guard, bind]
  -- More than one character is there, so it is not the offset of UTC.
  · simp
  · simp

/-- The offset of hours and minutes is read back. -/
theorem offset?_offsetChars {offset : Int} (hminutes : offset % 60 = 0)
    (hlow : -secondsPerDay < offset) (hhigh : offset < secondsPerDay) :
    offset? (offsetChars offset) = some offset := by
  rw [secondsPerDay] at hlow hhigh
  have hsplit : (offset.natAbs / 60 / 60 * 60 + offset.natAbs / 60 % 60) * 60 = offset.natAbs := by
    omega
  rw [offsetChars]
  split
  case isTrue hzero => rw [hzero]; rfl
  case isFalse hnonzero =>
    dsimp only
    by_cases hpositive : 0 ≤ offset
    · rw [if_pos hpositive, offset?_signed (.inl rfl) (by omega) (by omega), hsplit,
        if_neg (by decide), Int.natAbs_of_nonneg hpositive]
    · rw [if_neg hpositive, offset?_signed (.inr rfl) (by omega) (by omega), hsplit, if_pos rfl]
      exact congrArg some (by omega)

/-! ## Instants -/

/-- A date and a time of day are read from their digits. -/
lemma ofRfc3339Chars?_fields {year month day hour minute second nanos : Nat} {offset : Int}
    (hyear : year ≤ 9999) (hmonth : month ≤ 12) (hday : 1 ≤ day)
    (hdayIn : day ≤ daysInMonth (isLeapYear year) month) (hdays : day ≤ 31) (hhour : hour ≤ 23)
    (hminute : minute ≤ 59) (hsecond : second ≤ 59) (hnanos : nanos < 10 ^ 9)
    (hoffset : offset? (offsetChars offset) = some offset) :
    ofRfc3339Chars? (fixedDigits 4 year ++ '-' :: (fixedDigits 2 month ++ '-' ::
      (fixedDigits 2 day ++ 'T' :: (fixedDigits 2 hour ++ ':' :: (fixedDigits 2 minute ++ ':' ::
        (fixedDigits 2 second ++ (fractionChars nanos ++ offsetChars offset))))))) =
      some ⟨((yearStart year + (ordinalOf (isLeapYear year) month day : Nat) - 1) * secondsPerDay +
        ((hour * 60 + minute) * 60 + second : Nat)) * nanosPerSecond + nanos, offset⟩ := by
  have hdigits {n : Nat} (h : n < 100) (rest : List Char) :
      takeDigits? 2 (fixedDigits 2 n ++ rest) = some (n, rest) := takeDigits?_fixedDigits h rest
  have hfour := takeDigits?_fixedDigits (show year < 10 ^ 4 by omega)
  have hchar (c : Char) (rest : List Char) : takeChar? c (c :: rest) = some rest := if_pos rfl
  have hguard {p : Prop} [Decidable p] (h : p) : (guard p : Option Unit) = some () := if_pos h
  have hnotLeap : second ≠ 60 := by omega
  rw [ofRfc3339Chars?, hfour]
  -- The date.
  dsimp only [Option.bind_eq_bind, Option.bind_some]
  rw [hchar, Option.bind_some, hdigits (show month < 100 by omega), Option.bind_some]
  dsimp only
  rw [hchar, Option.bind_some, hdigits (show day < 100 by omega), Option.bind_some]
  dsimp only
  rw [hguard (by decide), Option.bind_some]
  -- The time of day, with the fraction and the offset behind it.
  rw [hdigits (show hour < 100 by omega), Option.bind_some]
  dsimp only
  rw [hchar, Option.bind_some, hdigits (show minute < 100 by omega), Option.bind_some]
  dsimp only
  rw [hchar, Option.bind_some, hdigits (show second < 100 by omega), Option.bind_some]
  dsimp only
  rw [takeFraction?_fractionChars hnanos (head?_offsetChars offset), Option.bind_some]
  dsimp only
  rw [hoffset, Option.bind_some]
  -- No leap second is written.
  rw [hguard ⟨hday, hdayIn, hhour, hminute, Nat.le_succ_of_le hsecond⟩, Option.bind_some]
  simp only [hnotLeap, decide_false, Bool.false_and, if_false]
  rfl

/-- The digits of the text of an instant are those of its date and of its time of day. -/
lemma rfc3339Chars_eq (t : Instant) {month day : Nat}
    (h : monthAndDay (isLeapYear t.year) (ordinalOfDay t.day) = (month, day)) :
    t.rfc3339Chars = fixedDigits 4 t.year.toNat ++ '-' :: (fixedDigits 2 month ++ '-' ::
      (fixedDigits 2 day ++ 'T' :: (fixedDigits 2 (t.nanosOfDay / nanosPerSecond.toNat / 3600) ++
        ':' :: (fixedDigits 2 (t.nanosOfDay / nanosPerSecond.toNat / 60 % 60) ++
          ':' :: (fixedDigits 2 (t.nanosOfDay / nanosPerSecond.toNat % 60) ++
            (fractionChars (t.nanosOfDay % nanosPerSecond.toNat) ++ offsetChars t.offset)))))) := by
  rw [rfc3339Chars, h]

/-- The clock shows its day, and the seconds and nanoseconds since midnight. -/
lemma clock_eq (t : Instant) :
    t.nanosOfDay / nanosPerSecond.toNat < 86400 ∧ t.nanosOfDay % nanosPerSecond.toNat < 10 ^ 9 ∧
      t.clock = (t.day * secondsPerDay + (t.nanosOfDay / nanosPerSecond.toNat : Nat)) *
        nanosPerSecond + (t.nanosOfDay % nanosPerSecond.toNat : Nat) := by
  have hnanos : nanosPerSecond.toNat = 1000000000 := rfl
  rw [hnanos]
  simp only [day, nanosOfDay, secondsPerDay, nanosPerSecond]
  omega

/-- An instant that has a text is read back from it. -/
theorem ofRfc3339?_text {t : Instant} (h : t.HasText) : ofRfc3339? t.text = some t := by
  obtain ⟨hwritable, hminutes, hlow, hhigh⟩ := h
  have hyears := hwritable
  simp only [isWritable, Bool.and_eq_true, decide_eq_true_eq] at hyears
  have hyear : ((t.year.toNat : Nat) : Int) = t.year := Int.toNat_of_nonneg hyears.1
  obtain ⟨hpos, hin⟩ := ordinalOfDay_mem t.day
  obtain ⟨month, day, hsplit, hmonth, hday, hdayIn, hdays, hordinal⟩ :=
    ordinalOf_monthAndDay hpos hin
  have hdayNumber : yearStart t.year + (ordinalOf (isLeapYear t.year) month day : Nat) - 1 =
      t.day := by
    rw [year, hordinal]
    exact yearStart_add_ordinalOfDay t.day
  obtain ⟨hseconds, hnanos, hclock⟩ := t.clock_eq
  rw [text, rfc3339?, if_pos hwritable, Option.getD_some, ofRfc3339?, String.toList_ofList,
    rfc3339Chars_eq t hsplit]
  generalize t.nanosOfDay / nanosPerSecond.toNat = seconds at hseconds hclock
  generalize t.nanosOfDay % nanosPerSecond.toNat = nanos at hnanos hclock
  have htime : (seconds / 3600 * 60 + seconds / 60 % 60) * 60 + seconds % 60 = seconds := by omega
  rw [ofRfc3339Chars?_fields (by omega) hmonth hday (hyear.symm ▸ hdayIn) hdays (by omega)
    (by omega) (by omega) hnanos (offset?_offsetChars hminutes hlow hhigh), htime, hyear,
    hdayNumber, ← hclock]

example : (⟨1709251199500000000, 19800⟩ : Instant).text = "2024-02-29T23:59:59.5+05:30" := by
  decide +kernel

end TokenAuthority.Instant
