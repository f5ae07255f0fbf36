/-!
# Blank characters and words

A scope string is cut into tokens wherever a character has the Unicode property `White_Space`.

## Main definitions

* `isBlank` — the property `White_Space`, as the list of its code points.
* `words` — the maximal stretches of characters that are not blank, in order.
* `trimBlank`, `isBlankText` — a text without the blanks at its ends, and the test for nothing left.

## Main results

* `isBlank_of_isWhitespace` — every character that core calls white space is blank.
-/

set_option autoImplicit false

namespace TokenAuthority

/-- The Unicode property `White_Space`: 25 code points, none of them above U+3000. -/
def isBlank (c : Char) : Bool :=
  let n := c.toNat
  (0x09 ≤ n && n ≤ 0x0D) || n == 0x20 || n == 0x85 || n == 0xA0 || n == 0x1680 ||
    (0x2000 ≤ n && n ≤ 0x200A) || n == 0x2028 || n == 0x2029 || n == 0x202F || n == 0x205F ||
    n == 0x3000

/-- The ASCII characters that core calls white space are blank. -/
theorem isBlank_of_isWhitespace {c : Char} (h : c.isWhitespace = true) : isBlank c = true := by
  simp only [Char.isWhitespace, Bool.or_eq_true, decide_eq_true_eq] at h
  rcases h with ((h | h) | h) | h <;> subst h <;> decide

/-- The word that starts a list of characters, possibly empty, and the words after it. -/
def wordsFrom : List Char → List Char × List (List Char)
  | [] => ([], [])
  | c :: cs =>
    let (word, rest) := wordsFrom cs
    if isBlank c then ([], if word.isEmpty then rest else word :: rest) else (c :: word, rest)

/-- The words of a list of characters. -/
def wordsOfChars (cs : List Char) : List (List Char) :=
  let (word, rest) := wordsFrom cs
  if word.isEmpty then rest else word :: rest

/-- The words of a text: its maximal stretches of characters that are not blank, in order. -/
def words (s : String) : List String :=
  (wordsOfChars s.toList).map String.ofList

/-- A text that holds blanks only, or nothing. -/
def isBlankText (s : String) : Bool :=
  s.toList.all isBlank

/-- A text without the blanks at its two ends. -/
def trimBlank (s : String) : String :=
  String.ofList ((s.toList.dropWhile isBlank).reverse.dropWhile isBlank).reverse

end TokenAuthority
