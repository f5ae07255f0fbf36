import Mathlib.Data.List.TakeWhile
import Mathlib.Tactic.Lemma
import TokenAuthority.Number.Decimal

/-!
# The grammar of numerals

Which texts are read as numbers, said of their characters: a word for an infinity or for no number,
or digits with a point among them or none, and an exponent or none, each with a sign or none.

## Main definitions

* `TokenAuthority.AreDigits` — digits, at least one.
* `TokenAuthority.IsDecimal` — digits, with a point or none and an exponent or none.
* `TokenAuthority.IsNumeral` — a text that is read as a number.

## Main results

* `TokenAuthority.Extended.unsigned?_isSome_iff` — what is read as digits.
* `TokenAuthority.Extended.ofText?_isSome_iff` — what is read as a double.
* `TokenAuthority.isNumeral_of_word?` — what is read as an integer is read as a double.
* `TokenAuthority.IsNumeral.space_notMem` — there is no space in a numeral.
-/

set_option autoImplicit false

namespace TokenAuthority

/-- Digits, at least one. -/
def AreDigits (ds : List Char) : Prop := ds ≠ [] ∧ ∀ d ∈ ds, d.isDigit = true

/-- The exponent of a numeral: its letter in either case, a sign or none, and digits. -/
def IsExponent (cs : List Char) : Prop :=
  ∃ e rest, cs = e :: rest ∧ e.toLower = 'e' ∧ AreDigits (takeSign rest).2

/-- Digits with a point in front of them, among them, behind them or nowhere, and an exponent or
none. -/
def IsDecimal (cs : List Char) : Prop :=
  ∃ whole fraction exponent, AreDigits (whole ++ fraction) ∧
    (exponent = [] ∨ IsExponent exponent) ∧
    (cs = whole ++ '.' :: (fraction ++ exponent) ∨ (fraction = [] ∧ cs = whole ++ exponent))

/-- The words for an infinity and for no number, in any case. -/
def IsNumberWord (cs : List Char) : Prop :=
  String.ofList (cs.map Char.toLower) ∈ ["inf", "infinity", "nan"]

/-- A number as a text: one of the words, or digits, with a sign or none. -/
def IsNumeral (cs : List Char) : Prop :=
  IsNumberWord (takeSign cs).2 ∨ IsDecimal (takeSign cs).2

/-! ## Stretches of characters -/

/-- The longest stretch of one kind at the front ends where the first element of another kind is. -/
lemma takeWhile_append_of_stop {α : Type} {p : α → Bool} {xs ys : List α}
    (hxs : ∀ x ∈ xs, p x = true) (hys : ∀ y ∈ ys.head?, p y = false) :
    (xs ++ ys).takeWhile p = xs ∧ (xs ++ ys).dropWhile p = ys := by
  have hstop : ys.takeWhile p = [] ∧ ys.dropWhile p = ys := by
    cases ys with
    | nil => exact ⟨rfl, rfl⟩
    | cons y ys => simp [hys y rfl]
  rw [List.takeWhile_append_of_pos hxs, List.dropWhile_append_of_pos hxs, hstop.1, hstop.2,
    List.append_nil]
  exact ⟨rfl, rfl⟩

/-- A text is a stretch of digits and what does not begin with a digit. -/
lemma exists_digits_append (cs : List Char) :
    ∃ ds rest, cs = ds ++ rest ∧ (∀ d ∈ ds, d.isDigit = true) ∧
      ∀ c ∈ rest.head?, c.isDigit = false := by
  refine ⟨cs.takeWhile Char.isDigit, cs.dropWhile Char.isDigit, List.takeWhile_append_dropWhile.symm,
    fun d hd => List.mem_takeWhile_imp hd, fun c hc => ?_⟩
  have hnot := List.head?_dropWhile_not Char.isDigit cs
  rw [Option.mem_def.mp hc] at hnot
  simpa using hnot

/-- A digit is its own lower case. -/
lemma toLower_of_isDigit {c : Char} (h : c.isDigit = true) : c.toLower = c := by
  refine dif_neg fun hupper => ?_
  simp only [Char.isDigit, Bool.and_eq_true, decide_eq_true_eq, ge_iff_le,
    UInt32.le_iff_toNat_le] at h hupper
  simp at h hupper
  omega

/-- The letter of an exponent is no digit and no point. -/
lemma of_toLower_eq {c : Char} (h : c.toLower = 'e') : c.isDigit = false ∧ c ≠ '.' := by
  constructor
  · by_contra hdigit
    rw [Bool.not_eq_false] at hdigit
    rw [toLower_of_isDigit hdigit] at h
    subst h
    revert hdigit
    decide
  · rintro rfl
    revert h
    decide

/-- The letter of an exponent and what follows it. -/
lemma isExponent_cons_iff {c : Char} {rest : List Char} :
    IsExponent (c :: rest) ↔ c.toLower = 'e' ∧ AreDigits (takeSign rest).2 := by
  constructor
  · rintro ⟨e, rest', h, he, hdigits⟩
    cases h
    exact ⟨he, hdigits⟩
  · exact fun ⟨hc, hdigits⟩ => ⟨c, rest, rfl, hc, hdigits⟩

/-- Nothing, and an exponent, do not begin with a digit or a point. -/
lemma head?_of_isExponent {tail : List Char} (h : tail = [] ∨ IsExponent tail) :
    ∀ c ∈ tail.head?, c.isDigit = false ∧ c ≠ '.' := by
  rcases h with rfl | ⟨e, rest, rfl, he, -⟩
  · rintro c ⟨⟩
  · rintro c ⟨⟩
    exact of_toLower_eq he

namespace Extended

variable {negative : Bool} {whole fraction tail cs : List Char}

/-- An exponent is read exactly if it is digits, with a sign or none. -/
lemma exponent?_isSome_iff : (exponent? cs).isSome = true ↔ AreDigits (takeSign cs).2 := by
  rw [exponent?]
  obtain ⟨sign, ds⟩ := takeSign cs
  simp [AreDigits]

/-- What is behind the digits has to be an exponent or nothing. -/
lemma isSome_tail_iff {f : Int → Extended} {x : Extended} :
    (match tail with
      | [] => some x
      | c :: rest => if c.toLower == 'e' then (exponent? rest).map f else none).isSome = true ↔
      tail = [] ∨ IsExponent tail := by
  cases tail with
  | nil => simp
  | cons c rest =>
    rw [isExponent_cons_iff]
    by_cases hc : c.toLower = 'e'
    · simp [hc, exponent?_isSome_iff]
    · simp [hc]

/-- Digits around a point, and what is behind them. -/
lemma unsigned?_point_isSome_iff (hwhole : ∀ d ∈ whole, d.isDigit = true)
    (hfraction : ∀ d ∈ fraction, d.isDigit = true) (htail : ∀ c ∈ tail.head?, c.isDigit = false) :
    (unsigned? negative (whole ++ '.' :: (fraction ++ tail))).isSome = true ↔
      whole ++ fraction ≠ [] ∧ (tail = [] ∨ IsExponent tail) := by
  have hpoint : ∀ c ∈ ('.' :: (fraction ++ tail)).head?, c.isDigit = false := by
    rintro c ⟨⟩
    decide
  obtain ⟨htake, hdrop⟩ := takeWhile_append_of_stop hwhole hpoint
  obtain ⟨htake', hdrop'⟩ := takeWhile_append_of_stop hfraction htail
  simp only [unsigned?, htake, hdrop, htake', hdrop']
  split
  · rename_i hempty
    simp_all
  · rename_i hempty
    rw [and_iff_right (by simpa using hempty)]
    exact isSome_tail_iff

/-- Digits without a point, and what is behind them. -/
lemma unsigned?_plain_isSome_iff (hwhole : ∀ d ∈ whole, d.isDigit = true)
    (htail : ∀ c ∈ tail.head?, c.isDigit = false ∧ c ≠ '.') :
    (unsigned? negative (whole ++ tail)).isSome = true ↔
      whole ≠ [] ∧ (tail = [] ∨ IsExponent tail) := by
  obtain ⟨htake, hdrop⟩ := takeWhile_append_of_stop hwhole fun c hc => (htail c hc).1
  simp only [unsigned?, htake, hdrop]
  -- The first character of the tail decides which way the point is looked for.
  cases tail with
  | nil => simp
  | cons c rest =>
    have hpoint : c ≠ '.' := (htail c rfl).2
    rw [isExponent_cons_iff]
    by_cases hempty : whole = []
    · simp [hpoint, hempty]
    · by_cases hc : c.toLower = 'e'
      · simp [hpoint, hempty, hc, exponent?_isSome_iff]
      · simp [hpoint, hempty, hc]

/-- What is read as a double without its sign is digits, with a point or none and an exponent or
none. -/
theorem unsigned?_isSome_iff : (unsigned? negative cs).isSome = true ↔ IsDecimal cs := by
  constructor
  · intro h
    obtain ⟨whole, rest, rfl, hwhole, hrest⟩ := exists_digits_append cs
    by_cases hpoint : ∃ after, rest = '.' :: after
    · obtain ⟨after, rfl⟩ := hpoint
      obtain ⟨fraction, tail, rfl, hfraction, htail⟩ := exists_digits_append after
      obtain ⟨hne, hexponent⟩ := (unsigned?_point_isSome_iff hwhole hfraction htail).mp h
      exact ⟨whole, fraction, tail, ⟨hne, List.forall_mem_append.mpr ⟨hwhole, hfraction⟩⟩,
        hexponent, .inl rfl⟩
    · have hhead : ∀ c ∈ rest.head?, c.isDigit = false ∧ c ≠ '.' := by
        refine fun c hc => ⟨hrest c hc, ?_⟩
        rintro rfl
        exact hpoint ⟨_, (List.head?_eq_some_iff.mp hc).choose_spec⟩
      obtain ⟨hne, hexponent⟩ := (unsigned?_plain_isSome_iff hwhole hhead).mp h
      exact ⟨whole, [], rest, ⟨by rwa [List.append_nil], by rwa [List.append_nil]⟩, hexponent,
        .inr ⟨rfl, rfl⟩⟩
  · rintro ⟨whole, fraction, exponent, ⟨hne, hdigits⟩, hexponent, h⟩
    obtain ⟨hwhole, hfraction⟩ := List.forall_mem_append.mp hdigits
    have hhead := head?_of_isExponent hexponent
    rcases h with rfl | ⟨rfl, rfl⟩
    · exact (unsigned?_point_isSome_iff hwhole hfraction fun c hc => (hhead c hc).1).mpr
        ⟨hne, hexponent⟩
    · exact (unsigned?_plain_isSome_iff hwhole hhead).mpr ⟨by simpa using hne, hexponent⟩

/-- What is read as a double is a numeral. -/
theorem ofText?_isSome_iff : (ofText? cs).isSome = true ↔ IsNumeral cs := by
  have hword (negative : Bool) (word : List Char) :
      (ofWord? negative (word.map Char.toLower)).isSome = true ↔ IsNumberWord word := by
    rw [ofWord?, IsNumberWord]
    generalize String.ofList (word.map Char.toLower) = lower
    by_cases hinf : lower = "inf" ∨ lower = "infinity"
    · rcases hinf with rfl | rfl <;> simp
    · by_cases hnan : lower = "nan" <;> simp_all
  rw [ofText?, IsNumeral]
  obtain ⟨negative, body⟩ := takeSign cs
  rw [Option.isSome_or, Bool.or_eq_true, hword, unsigned?_isSome_iff]

end Extended

/-- What is read as an integer is a numeral. -/
lemma isNumeral_of_word? {cs : List Char} (h : (word? cs).isSome = true) : IsNumeral cs := by
  have hdigits : AreDigits (takeSign cs).2 := by
    revert h
    rw [word?]
    obtain ⟨negative, ds⟩ := takeSign cs
    dsimp only
    split
    · intro h
      cases h
    · rename_i hdigits
      intro
      simpa [AreDigits] using hdigits
  exact .inr ⟨_, [], [], by rwa [List.append_nil], .inl rfl, .inr ⟨rfl, (List.append_nil _).symm⟩⟩

/-! ## Spaces -/

/-- There is no space among digits. -/
lemma AreDigits.space_notMem {ds : List Char} (h : AreDigits ds) : ' ' ∉ ds :=
  fun hmem => absurd (h.2 ' ' hmem) (by decide)

/-- A space is behind the sign. -/
lemma space_mem_takeSign {cs : List Char} (h : ' ' ∈ cs) : ' ' ∈ (takeSign cs).2 := by
  fun_cases takeSign cs <;> simp_all

/-- A space is there in lower case, too. -/
lemma space_mem_lower {cs : List Char} (h : ' ' ∈ cs) :
    ' ' ∈ (String.ofList (cs.map Char.toLower)).toList := by
  rw [String.toList_ofList]
  exact List.mem_map.mpr ⟨' ', h, by decide⟩

/-- There is no space in an exponent. -/
lemma IsExponent.space_notMem {cs : List Char} (h : IsExponent cs) : ' ' ∉ cs := by
  obtain ⟨e, rest, rfl, he, hdigits⟩ := h
  refine List.not_mem_cons_of_ne_of_not_mem ?_ fun hmem =>
    hdigits.space_notMem (space_mem_takeSign hmem)
  rintro rfl
  revert he
  decide

/-- There is no space in a numeral. -/
theorem IsNumeral.space_notMem {cs : List Char} (h : IsNumeral cs) : ' ' ∉ cs := by
  intro hmem
  replace hmem := space_mem_takeSign hmem
  rcases h with hword | ⟨whole, fraction, exponent, hdigits, hexponent, h⟩
  · have hwords : ∀ word ∈ ["inf", "infinity", "nan"], ' ' ∉ word.toList := by decide
    exact hwords _ hword (space_mem_lower hmem)
  · have hspace : ' ' ∉ whole ++ fraction ++ exponent := by
      rw [List.mem_append, not_or]
      refine ⟨hdigits.space_notMem, ?_⟩
      rcases hexponent with rfl | hexponent
      · exact List.not_mem_nil
      · exact hexponent.space_notMem
    rcases h with h | ⟨-, h⟩ <;> simp_all

end TokenAuthority
