import Mathlib.Tactic.Lemma
import TokenAuthority.Time.Calendar

/-!
# Laws of the calendar

A day lies in its year, and month and day lead back to the day of the year.

## Main results

* `TokenAuthority.yearStart_add_ordinalOfDay` — year and day of the year lead back to the day.
* `TokenAuthority.ordinalOf_monthAndDay` — month and day lead back to the day of the year.
* `TokenAuthority.Date.ofOrdinal?_ordinal` — year and ordinal lead back to the date.
-/

set_option autoImplicit false

namespace TokenAuthority

/-! ## Years -/

/-- A year begins when the one before it has ended. -/
lemma yearStart_succ (year : Int) : yearStart (year + 1) = yearStart year + daysInYear year := by
  simp only [yearStart, daysInYear, isLeapYear, Bool.and_eq_true, Bool.or_eq_true, beq_iff_eq,
    bne_iff_ne, ne_eq]
  split <;> omega

/-- The average of 146097 / 400 days gives the year of a day up to one. -/
lemma yearOfDay_guess {day guess : Int} (h : guess = (day + 719162) * 400 / 146097 + 1) :
    yearStart (guess - 1) ≤ day ∧ day < yearStart (guess + 1 + 1) := by
  simp only [yearStart]
  omega

/-- A day lies in its year. -/
lemma yearOfDay_spec (day : Int) :
    yearStart (yearOfDay day) ≤ day ∧ day < yearStart (yearOfDay day + 1) := by
  rw [yearOfDay]
  generalize hguess : (day + 719162) * 400 / 146097 + 1 = guess
  obtain ⟨hlow, hhigh⟩ := yearOfDay_guess hguess.symm
  split
  · rename_i hbefore
    exact ⟨hlow, by rwa [Int.sub_add_cancel]⟩
  · rename_i hbefore
    split
    · rename_i hafter
      exact ⟨hafter, hhigh⟩
    · rename_i hafter
      exact ⟨Int.not_lt.mp hbefore, Int.not_le.mp hafter⟩

/-- Year and day of the year lead back to the day. -/
theorem yearStart_add_ordinalOfDay (day : Int) :
    yearStart (yearOfDay day) + (ordinalOfDay day : Nat) - 1 = day := by
  have hstart := (yearOfDay_spec day).1
  rw [ordinalOfDay]
  omega

/-- The day of the year is one of the days of the year. -/
lemma ordinalOfDay_mem (day : Int) :
    1 ≤ ordinalOfDay day ∧ ordinalOfDay day ≤ daysInYear (yearOfDay day) := by
  obtain ⟨hstart, hend⟩ := yearOfDay_spec day
  rw [yearStart_succ] at hend
  rw [ordinalOfDay]
  omega

/-! ## Months -/

/-- The month of a day of some months in a row, and the day of the month: the months before it and
the day of the month make up the day that was sought.

**Proof sketch.** Induction on the months. A day beyond the first month is sought in the others, as
many days earlier as the first month has. -/
lemma monthAndDayFrom_spec (month : Nat) (lengths : List Nat) {ordinal : Nat} (hpos : 1 ≤ ordinal)
    (hin : ordinal ≤ lengths.foldr (· + ·) 0) :
    ∃ i day, monthAndDayFrom month lengths ordinal = (month + i, day) ∧ 1 ≤ day ∧
      (∃ length, lengths[i]? = some length ∧ day ≤ length) ∧
      (lengths.take i).foldr (· + ·) 0 + day = ordinal := by
  induction lengths generalizing month ordinal with
  | nil => exact absurd hin (by simp; omega)
  | cons length rest ih =>
    rw [monthAndDayFrom]
    split
    · rename_i hfirst
      exact ⟨0, ordinal, rfl, hpos, ⟨length, rfl, hfirst⟩, by simp⟩
    · rename_i hlater
      rw [List.foldr_cons] at hin
      have hpos' : 1 ≤ ordinal - length := by omega
      have hin' : ordinal - length ≤ rest.foldr (· + ·) 0 := by omega
      obtain ⟨i, day, hrest, hday, hlength, hsum⟩ := ih (month + 1) hpos' hin'
      refine ⟨i + 1, day, by rw [hrest, Nat.add_right_comm, Nat.add_assoc], hday, ?_, ?_⟩
      · simpa using hlength
      · rw [List.take_succ_cons, List.foldr_cons]
        omega

/-- The months make up the year. -/
lemma sum_monthLengths (year : Int) :
    (monthLengths (isLeapYear year)).foldr (· + ·) 0 = daysInYear year := by
  rw [daysInYear]
  cases isLeapYear year <;> rfl

/-- No month has more than 31 days. -/
lemma monthLengths_le (leap : Bool) : ∀ length ∈ monthLengths leap, length ≤ 31 := by
  revert leap
  decide

/-- Month and day lead back to the day of the year, and the day is one of the month. -/
theorem ordinalOf_monthAndDay {year : Int} {ordinal : Nat} (hpos : 1 ≤ ordinal)
    (hin : ordinal ≤ daysInYear year) :
    ∃ month day, monthAndDay (isLeapYear year) ordinal = (month, day) ∧ month ≤ 12 ∧ 1 ≤ day ∧
      day ≤ daysInMonth (isLeapYear year) month ∧ day ≤ 31 ∧
      ordinalOf (isLeapYear year) month day = ordinal := by
  rw [← sum_monthLengths] at hin
  obtain ⟨i, day, hsplit, hday, ⟨length, hlength, hle⟩, hsum⟩ := monthAndDayFrom_spec 1 _ hpos hin
  obtain ⟨hi, -⟩ := List.getElem?_eq_some_iff.mp hlength
  have htwelve : (monthLengths (isLeapYear year)).length = 12 := rfl
  have hlong := monthLengths_le _ length (List.mem_of_getElem? hlength)
  have hindex : 1 + i - 1 = i := Nat.add_sub_cancel_left 1 i
  refine ⟨1 + i, day, hsplit, by omega, hday, ?_, by omega, ?_⟩
  · rw [daysInMonth, if_neg (by simp), hindex, hlength]
    exact hle
  · rw [ordinalOf, hindex]
    exact hsum

/-! ## Dates -/

/-- Year and ordinal lead back to the date. -/
theorem Date.ofOrdinal?_ordinal (d : Date) : Date.ofOrdinal? d.year d.ordinal = some d := by
  rw [Date.ofOrdinal?, Int.toNat_natCast]
  exact dif_pos d.valid

/-- Year and ordinal of a date are small. -/
lemma Date.bounds (d : Date) : -9999 ≤ d.year ∧ d.year ≤ 9999 ∧ d.ordinal ≤ 366 := by
  obtain ⟨hyear, -, hordinal⟩ := d.valid
  simp only [isDatedYear, Bool.and_eq_true, decide_eq_true_eq] at hyear
  refine ⟨hyear.1, hyear.2, Nat.le_trans hordinal ?_⟩
  rw [daysInYear]
  split <;> decide

end TokenAuthority
