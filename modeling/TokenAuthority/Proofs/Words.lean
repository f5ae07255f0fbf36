import Mathlib.Tactic.Lemma
import TokenAuthority.Text.Blank

/-!
# Words of a text

A blank cuts a text into two, whose words are those of the whole. From this one equation it follows
that words put together with blanks between them are read again, and that blanks at the ends of a
text do not matter.

## Main definitions

* `TokenAuthority.IsWord` — a text that is not empty and has no blank in it.

## Main results

* `TokenAuthority.wordsOfChars_append_blank` — the words on both sides of a blank.
* `TokenAuthority.isWord_of_mem_words` — what is read as a word is one.
* `TokenAuthority.words_append_space` — the words of two texts with a space between them.
* `TokenAuthority.words_intercalate` — words joined by single blanks are read again.
* `TokenAuthority.words_trimBlank` — the ends of a text do not matter.
-/

set_option autoImplicit false

namespace TokenAuthority

/-! ## Words as lists of characters -/

/-- A blank ends the word before it, and new words are read after it. -/
lemma wordsFrom_append_blank {b : Char} (hb : isBlank b = true) (xs ys : List Char) :
    wordsFrom (xs ++ b :: ys) =
      ((wordsFrom xs).1, (wordsFrom xs).2 ++ wordsOfChars ys) := by
  induction xs with
  | nil => simp [wordsFrom, wordsOfChars, hb]
  | cons c xs ih =>
    simp only [List.cons_append, wordsFrom, ih]
    cases isBlank c with
    | false => rfl
    | true => cases (wordsFrom xs).1 <;> rfl

/-- The words of a text with a blank in it are those before the blank and those behind it. -/
theorem wordsOfChars_append_blank {b : Char} (hb : isBlank b = true) (xs ys : List Char) :
    wordsOfChars (xs ++ b :: ys) = wordsOfChars xs ++ wordsOfChars ys := by
  rw [wordsOfChars, wordsFrom_append_blank hb]
  generalize wordsOfChars ys = zs
  rw [wordsOfChars]
  obtain ⟨word, rest⟩ := wordsFrom xs
  cases word <;> rfl

/-- A blank at the front is in no word. -/
lemma wordsOfChars_cons_blank {b : Char} (hb : isBlank b = true) (xs : List Char) :
    wordsOfChars (b :: xs) = wordsOfChars xs := wordsOfChars_append_blank hb [] xs

/-- The blanks at the front are in no word. -/
lemma wordsOfChars_dropWhile (xs : List Char) :
    wordsOfChars (xs.dropWhile isBlank) = wordsOfChars xs := by
  induction xs with
  | nil => rfl
  | cons c xs ih =>
    by_cases hc : isBlank c = true
    · rw [List.dropWhile_cons_of_pos hc, ih, wordsOfChars_cons_blank hc]
    · rw [List.dropWhile_cons_of_neg hc]

/-- There are no words in blanks. -/
lemma wordsOfChars_of_blank {bs : List Char} (hbs : ∀ b ∈ bs, isBlank b = true) :
    wordsOfChars bs = [] := by
  induction bs with
  | nil => rfl
  | cons b bs ih =>
    rw [wordsOfChars_cons_blank (hbs b List.mem_cons_self)]
    exact ih fun a ha => hbs a (List.mem_cons_of_mem b ha)

/-- The blanks at the end are in no word. -/
lemma wordsOfChars_append_of_blank (xs : List Char) {bs : List Char}
    (hbs : ∀ b ∈ bs, isBlank b = true) : wordsOfChars (xs ++ bs) = wordsOfChars xs := by
  cases bs with
  | nil => rw [List.append_nil]
  | cons b bs =>
    rw [wordsOfChars_append_blank (hbs b List.mem_cons_self),
      wordsOfChars_of_blank fun a ha => hbs a (List.mem_cons_of_mem b ha), List.append_nil]

/-- A text without blanks is read as one stretch. -/
lemma wordsFrom_of_not_blank {cs : List Char} (hcs : ∀ c ∈ cs, isBlank c = false) :
    wordsFrom cs = (cs, []) := by
  induction cs with
  | nil => rfl
  | cons c cs ih =>
    simp [wordsFrom, ih fun a ha => hcs a (List.mem_cons_of_mem c ha), hcs c List.mem_cons_self]

/-- The stretch at the front has no blank in it, and the words behind it are words. -/
lemma wordsFrom_spec (cs : List Char) :
    (∀ c ∈ (wordsFrom cs).1, isBlank c = false) ∧
    ∀ w ∈ (wordsFrom cs).2, w ≠ [] ∧ ∀ c ∈ w, isBlank c = false := by
  induction cs with
  | nil => simp [wordsFrom]
  | cons c cs ih =>
    obtain ⟨hfront, hrest⟩ := ih
    simp only [wordsFrom]
    cases hc : isBlank c with
    | false =>
      refine ⟨fun a ha => ?_, hrest⟩
      rcases List.mem_cons.mp ha with rfl | ha
      · exact hc
      · exact hfront a ha
    | true =>
      refine ⟨by simp, fun w hw => ?_⟩
      by_cases hempty : (wordsFrom cs).1.isEmpty = true
      · exact hrest w (by simpa [hempty] using hw)
      · simp only [hempty, if_true] at hw
        rcases List.mem_cons.mp hw with rfl | hw
        · exact ⟨by simpa using hempty, hfront⟩
        · exact hrest w hw

/-! ## Words as texts -/

/-- A text that is not empty and has no blank in it. -/
def IsWord (s : String) : Prop := s ≠ "" ∧ ∀ c ∈ s.toList, isBlank c = false

/-- What is read as a word is one. -/
theorem isWord_of_mem_words {s w : String} (hw : w ∈ words s) : IsWord w := by
  obtain ⟨cs, hcs, rfl⟩ := List.mem_map.mp hw
  obtain ⟨hfront, hrest⟩ := wordsFrom_spec s.toList
  have hcs' : cs ≠ [] ∧ ∀ c ∈ cs, isBlank c = false := by
    simp only [wordsOfChars] at hcs
    by_cases hempty : (wordsFrom s.toList).1.isEmpty = true
    · exact hrest cs (by simpa [hempty] using hcs)
    · simp only [hempty] at hcs
      rcases List.mem_cons.mp hcs with rfl | hcs
      · exact ⟨by simpa using hempty, hfront⟩
      · exact hrest cs hcs
  rw [IsWord, String.toList_ofList]
  exact ⟨fun h => hcs'.1 (by simpa using congrArg String.toList h), hcs'.2⟩

/-- A word is read as itself. -/
lemma words_of_isWord {w : String} (hw : IsWord w) : words w = [w] := by
  have hne : w.toList ≠ [] := fun h => hw.1 (String.toList_eq_nil_iff.mp h)
  simp [words, wordsOfChars, wordsFrom_of_not_blank hw.2, hne]

/-- The words of two texts with a space between them are those of the one and those of the other. -/
theorem words_append_space (s t : String) : words (s ++ " " ++ t) = words s ++ words t := by
  rw [words, String.toList_append, String.toList_append, List.append_assoc]
  change (wordsOfChars (_ ++ ' ' :: _)).map _ = _
  rw [wordsOfChars_append_blank (by decide), List.map_append]
  rfl

/-- Words joined by single blanks are read again. -/
theorem words_intercalate {ws : List String} (hws : ∀ w ∈ ws, IsWord w) :
    words (" ".intercalate ws) = ws := by
  induction ws with
  | nil => rfl
  | cons w ws ih =>
    have hw := words_of_isWord (hws w List.mem_cons_self)
    have ih := ih fun v hv => hws v (List.mem_cons_of_mem w hv)
    cases ws with
    | nil => simpa using hw
    | cons v ws =>
      rw [String.intercalate_cons_cons, words_append_space, hw, ih]
      rfl

/-- The blanks at the ends of a text do not matter for its words. -/
theorem words_trimBlank (s : String) : words (trimBlank s) = words s := by
  have hend (cs : List Char) :
      wordsOfChars (cs.reverse.dropWhile isBlank).reverse = wordsOfChars cs := by
    have hsplit : cs = (cs.reverse.dropWhile isBlank).reverse ++
        (cs.reverse.takeWhile isBlank).reverse := by
      rw [← List.reverse_append, List.takeWhile_append_dropWhile, List.reverse_reverse]
    have hblank : ∀ b ∈ (cs.reverse.takeWhile isBlank).reverse, isBlank b = true := by
      intro b hb
      exact List.all_eq_true.mp List.all_takeWhile b (List.mem_reverse.mp hb)
    exact (wordsOfChars_append_of_blank _ hblank).symm.trans (congrArg wordsOfChars hsplit.symm)
  rw [words, trimBlank, String.toList_ofList, hend, wordsOfChars_dropWhile]
  rfl

end TokenAuthority
