import Mathlib.Data.List.Basic
import Mathlib.Tactic.Lemma
import TokenAuthority.Claims.Builder

/-!
# Lines of an address

The address on an envelope has one line for every part that is there. Its first part is the street,
which is put together from two lines by a rule of its own: the second line, where it is there, joins
the first with a line end, even if the first is empty. So the lines of the envelope are the parts
that are there exactly if there is a first line, or no second one.

## Main definitions

* `TokenAuthority.splitLines` — the lines of a text.
* `TokenAuthority.HasLines` — a text that consists of lines, with single line ends between them.
* `TokenAuthority.AddressClaim.given` — the parts that are there.

## Main results

* `TokenAuthority.linesOfChars_append_lineEnd` — the lines on both sides of a line end.
* `TokenAuthority.hasLines_intercalate` — lines that are joined by line ends are read again.
* `TokenAuthority.AddressClaim.formatted_hasLines_iff` — the lines of an address.
-/

set_option autoImplicit false

namespace TokenAuthority

open AddressClaim (lineEnd)

/-! ## Lines of a text -/

/-- The lines of a list of characters, which a line feed right after a carriage return ends. -/
def linesOfChars : List Char → List (List Char)
  | [] => [[]]
  | '\r' :: '\n' :: cs => [] :: linesOfChars cs
  | c :: cs =>
    match linesOfChars cs with
    | [] => [[c]]
    | line :: rest => (c :: line) :: rest

/-- The lines of a text. -/
def splitLines (s : String) : List String := (linesOfChars s.toList).map String.ofList

/-- There is at least one line. -/
lemma linesOfChars_ne_nil (cs : List Char) : linesOfChars cs ≠ [] := by
  fun_cases linesOfChars cs <;> simp [*]

/-- A character that does not begin a line end is in the first line. -/
lemma linesOfChars_cons {c : Char} {cs line : List Char} {rest : List (List Char)}
    (hbreak : ∀ after, c = '\r' → cs = '\n' :: after → False)
    (h : linesOfChars cs = line :: rest) : linesOfChars (c :: cs) = (c :: line) :: rest := by
  rw [linesOfChars]
  · rw [h]
  · exact hbreak

/-- The lines of a text with a line end in it are those before it and those behind it. -/
theorem linesOfChars_append_lineEnd (xs ys : List Char) :
    linesOfChars (xs ++ '\r' :: '\n' :: ys) = linesOfChars xs ++ linesOfChars ys := by
  fun_induction linesOfChars xs with
  | case1 => rfl
  | case2 cs ih => simp [linesOfChars, ih]
  | case3 c cs hbreak hnil ih => exact absurd hnil (linesOfChars_ne_nil cs)
  | case4 c cs hbreak line rest hlines ih =>
    refine linesOfChars_cons (fun after hc hafter => ?_) (ih.trans (by rw [hlines]; rfl))
    -- A line feed behind `c` is not the one of the line end, so that it was there before.
    cases cs with
    | nil => simp at hafter
    | cons d cs =>
      injection hafter with hd
      exact hbreak cs hc (hd ▸ rfl)

/-- A text without a carriage return is one line. -/
lemma linesOfChars_of_notMem {cs : List Char} (h : '\r' ∉ cs) : linesOfChars cs = [cs] := by
  induction cs with
  | nil => rfl
  | cons c cs ih =>
    obtain ⟨hc, hcs⟩ := not_or.mp (List.mem_cons.not.mp h)
    exact linesOfChars_cons (fun _ hbreak => absurd hbreak.symm hc) (ih hcs)

/-- The lines of two texts with a line end between them are those of the one and those of the
other. -/
lemma splitLines_append_lineEnd (s t : String) :
    splitLines (s ++ lineEnd ++ t) = splitLines s ++ splitLines t := by
  have hchars : (s ++ lineEnd ++ t).toList = s.toList ++ '\r' :: '\n' :: t.toList := by
    simp [lineEnd]
  rw [splitLines, hchars, linesOfChars_append_lineEnd, List.map_append]
  rfl

/-- The text consists of the lines: it is the lines joined by line ends, and the lines can be read
off again. No line end is at its start or its end, and none follows another. -/
structure HasLines (text : String) (lines : List String) : Prop where
  joined : text = lineEnd.intercalate lines
  read : splitLines text = lines
  start : ∀ after, text ≠ lineEnd ++ after
  stop : ∀ before, text ≠ before ++ lineEnd
  single : ∀ before after, text ≠ before ++ lineEnd ++ lineEnd ++ after

/-- Lines that are joined by line ends are read again. -/
lemma splitLines_intercalate {lines : List String} (hlines : ∀ line ∈ lines, '\r' ∉ line.toList)
    (hne : lines ≠ []) : splitLines (lineEnd.intercalate lines) = lines := by
  induction lines with
  | nil => exact absurd rfl hne
  | cons line lines ih =>
    rw [List.forall_mem_cons] at hlines
    have hline : splitLines line = [line] := by
      simp [splitLines, linesOfChars_of_notMem hlines.1]
    cases lines with
    | nil => rw [String.intercalate_singleton, hline]
    | cons next lines =>
      rw [String.intercalate_cons_cons, splitLines_append_lineEnd, hline,
        ih hlines.2 (List.cons_ne_nil _ _)]
      rfl

/-- Lines that are not empty and hold no line end are the lines of the text that they are joined to.

**Proof sketch.** A line end at the start or the end of a text, or behind another one, leaves an
empty line. -/
theorem hasLines_intercalate {lines : List String}
    (hlines : ∀ line ∈ lines, line ≠ "" ∧ '\r' ∉ line.toList) (hne : lines ≠ []) :
    HasLines (lineEnd.intercalate lines) lines := by
  have hread := splitLines_intercalate (fun line h => (hlines line h).2) hne
  have hempty : "" ∉ splitLines (lineEnd.intercalate lines) := by
    rw [hread]
    exact fun h => (hlines "" h).1 rfl
  have hnone : splitLines "" = [""] := rfl
  refine ⟨rfl, hread, fun after h => hempty ?_, fun before h => hempty ?_,
    fun before after h => hempty ?_⟩
  · rw [h, ← String.empty_append (s := lineEnd), splitLines_append_lineEnd, hnone]
    exact List.mem_cons_self
  · rw [h, ← String.append_empty (s := before ++ lineEnd), splitLines_append_lineEnd, hnone]
    exact List.mem_append_right _ List.mem_cons_self
  · rw [h, ← String.append_empty (s := before ++ lineEnd), splitLines_append_lineEnd,
      splitLines_append_lineEnd, hnone]
    simp

/-! ## Addresses -/

namespace AddressClaim

/-- The parts that are not empty, in their order. -/
def given (parts : List String) : List String := parts.filter (!·.isEmpty)

section Given

variable {part : String} {parts : List String}

/-- An empty part is not there. -/
@[simp]
lemma given_cons_empty (parts : List String) : given ("" :: parts) = given parts := rfl

/-- A part that is not empty is there. -/
lemma given_cons (h : part ≠ "") : given (part :: parts) = part :: given parts :=
  List.filter_cons_of_pos (by simpa using h)

/-- What is there are the parts that are not empty. -/
lemma mem_given : part ∈ given parts ↔ part ∈ parts ∧ part ≠ "" := by
  simp [given]

/-- A text that is put together from parts begins with the first of them, even an empty one. -/
lemma exists_intercalate_given (part : String) (parts : List String) :
    ∃ rest, lineEnd.intercalate (given (part :: parts)) = part ++ rest := by
  by_cases hpart : part = ""
  · exact ⟨_, by rw [hpart, String.empty_append]⟩
  · rw [given_cons hpart]
    cases given parts with
    | nil => exact ⟨"", by simp⟩
    | cons next parts => exact ⟨_, by rw [String.intercalate_cons_cons, String.append_assoc]⟩

end Given

section Formatted

variable {line1 line2 locality region postalCode country : String}

/-- Without a second line the envelope is made of the parts that are there. -/
lemma formatted_of_no_second_line :
    (ofParts line1 "" locality region postalCode country).formatted =
      lineEnd.intercalate (given [line1, "", locality, region, postalCode, country]) := by
  change lineEnd.intercalate (given [line1, locality, region, postalCode, country]) = _
  by_cases hline1 : line1 = ""
  · rw [hline1, given_cons_empty, given_cons_empty, given_cons_empty]
  · rw [given_cons hline1, given_cons hline1, given_cons_empty]

/-- A second line stands behind a line end, whatever the first one is. -/
lemma formatted_of_second_line (h : line2 ≠ "") :
    (ofParts line1 line2 locality region postalCode country).formatted =
      line1 ++ lineEnd ++
        lineEnd.intercalate (given [line2, locality, region, postalCode, country]) := by
  have hformatted : (ofParts line1 line2 locality region postalCode country).formatted =
      lineEnd.intercalate (given [if line2.isEmpty then line1 else line1 ++ lineEnd ++ line2,
        locality, region, postalCode, country]) := rfl
  have hstreet : line1 ++ lineEnd ++ line2 ≠ "" := by simp [h]
  rw [hformatted, if_neg (by simpa using h), given_cons hstreet, given_cons h,
    String.intercalate_cons_append]

/-- The envelope is made of the parts that are there if there is a first line or no second one. -/
lemma formatted_eq_intercalate (h : line1 ≠ "" ∨ line2 = "") :
    (ofParts line1 line2 locality region postalCode country).formatted =
      lineEnd.intercalate (given [line1, line2, locality, region, postalCode, country]) := by
  by_cases hline2 : line2 = ""
  · subst hline2
    exact formatted_of_no_second_line
  · have hline1 : line1 ≠ "" := h.resolve_right hline2
    have hsecond : given [line2, locality, region, postalCode, country] ≠ [] :=
      List.ne_nil_of_mem (mem_given.mpr ⟨List.mem_cons_self, hline2⟩)
    rw [given_cons hline1, String.intercalate_cons_of_ne_nil hsecond]
    exact formatted_of_second_line hline2

/-- The parts of an address that are there, none of which holds a line break, are the lines of its
envelope exactly if there is a first street line or no second one. Otherwise the envelope is the
text of these lines behind a line end. In any case it begins with the street. -/
theorem formatted_hasLines_iff
    (hbreaks : ∀ part ∈ [line1, line2, locality, region, postalCode, country],
      '\r' ∉ part.toList ∧ '\n' ∉ part.toList)
    (hgiven : ∃ part ∈ [line1, line2, locality, region, postalCode, country], part ≠ "") :
    let address := ofParts line1 line2 locality region postalCode country
    let parts := given [line1, line2, locality, region, postalCode, country]
    (HasLines address.formatted parts ↔ line1 ≠ "" ∨ line2 = "") ∧
    (line1 = "" → line2 ≠ "" → address.formatted = lineEnd ++ lineEnd.intercalate parts) ∧
    ∃ rest, address.formatted = address.streetAddress ++ rest := by
  intro address parts
  have hlines : HasLines (lineEnd.intercalate parts) parts := by
    refine hasLines_intercalate (fun part hpart => ?_) ?_
    · obtain ⟨hpart, hne⟩ := mem_given.mp hpart
      exact ⟨hne, (hbreaks part hpart).1⟩
    · obtain ⟨part, hpart, hne⟩ := hgiven
      exact List.ne_nil_of_mem (mem_given.mpr ⟨hpart, hne⟩)
  have hbehind (hline1 : line1 = "") (hline2 : line2 ≠ "") :
      address.formatted = lineEnd ++ lineEnd.intercalate parts := by
    subst hline1
    exact (formatted_of_second_line hline2).trans (by rw [String.empty_append]; rfl)
  refine ⟨⟨fun h => ?_, fun h => ?_⟩, hbehind, exists_intercalate_given _ _⟩
  · by_contra hcon
    obtain ⟨hline1, hline2⟩ := not_or.mp hcon
    exact h.start _ (hbehind (not_not.mp hline1) hline2)
  · have hformatted : address.formatted = lineEnd.intercalate parts := formatted_eq_intercalate h
    exact hformatted ▸ hlines

/-- The six parts of an address, each on a line of its own. -/
theorem formatted_hasLines_full :
    HasLines (ofParts "1 Main St" "Apt 2" "Springfield" "IL" "62701" "US").formatted
      ["1 Main St", "Apt 2", "Springfield", "IL", "62701", "US"] :=
  (formatted_hasLines_iff (by simp) ⟨"US", by simp, by simp⟩).1.mpr (.inl (by simp))

/-- It is not so that the parts of every address that are there are the lines of its envelope. -/
theorem not_forall_formatted_hasLines :
    ¬ ∀ line1 line2 locality region postalCode country : String,
      (∀ part ∈ [line1, line2, locality, region, postalCode, country],
        '\r' ∉ part.toList ∧ '\n' ∉ part.toList) →
      (∃ part ∈ [line1, line2, locality, region, postalCode, country], part ≠ "") →
      HasLines (ofParts line1 line2 locality region postalCode country).formatted
        (given [line1, line2, locality, region, postalCode, country]) := by
  intro hall
  have hlines := hall "" "Apt 2" "Springfield" "" "" "US" (by simp) ⟨"US", by simp, by simp⟩
  exact hlines.start _ (formatted_of_second_line (by simp))

end Formatted

end AddressClaim

end TokenAuthority
